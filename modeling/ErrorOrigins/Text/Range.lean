namespace ErrorOrigins.Text

-- Some range, both ends included, holds the character. The ranges stand in ascending order.
def inRanges (ranges : List (Nat × Nat)) (c : Char) : Bool :=
  match ranges with
  | []               => false
  | (lo, hi) :: rest => lo ≤ c.toNat && (c.toNat ≤ hi || inRanges rest c)

end ErrorOrigins.Text
