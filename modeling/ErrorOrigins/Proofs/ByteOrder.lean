import Mathlib.Data.List.Lex
import Mathlib.Data.String.Basic

namespace ErrorOrigins.Text

def bytes (text : String) : List UInt8 :=
  text.toByteArray.data.toList

-- The bytes of one list come before those of another. A beginning comes before the whole.
def BytesLt : List UInt8 → List UInt8 → Prop :=
  List.Lex fun x y => x.toNat < y.toNat

-- One text comes before another, byte by byte.
def Precedes (a b : String) : Prop :=
  BytesLt (bytes a) (bytes b)

theorem bytes_eq (text : String) : bytes text = text.toList.flatMap String.utf8EncodeChar := by
  rw [bytes, ← String.utf8Encode_toList, List.utf8Encode]
  simp

-- A byte after the first one of a character.
abbrev Continues (b : UInt8) : Prop :=
  0x80 ≤ b.toNat ∧ b.toNat ≤ 0xbf

-- The sequences of bytes that stand for the character of the given number. The longer ones have no place for numbers
-- that a shorter one can hold, for surrogates, and for numbers beyond the last character.
inductive Sequence (v : Nat) : List UInt8 → Prop
  | one (b₀ : UInt8) (h₀ : b₀.toNat ≤ 0x7f) (hv : v = b₀.toNat) : Sequence v [b₀]
  | two (b₀ b₁ : UInt8) (h₀ : 0xc2 ≤ b₀.toNat ∧ b₀.toNat ≤ 0xdf) (h₁ : Continues b₁)
      (hv : v = (b₀.toNat - 0xc0) * 0x40 + (b₁.toNat - 0x80)) : Sequence v [b₀, b₁]
  | three (b₀ b₁ b₂ : UInt8) (h₀ : 0xe0 ≤ b₀.toNat ∧ b₀.toNat ≤ 0xef) (h₁ : Continues b₁) (h₂ : Continues b₂)
      (low : b₀.toNat = 0xe0 → 0xa0 ≤ b₁.toNat) (high : b₀.toNat = 0xed → b₁.toNat ≤ 0x9f)
      (hv : v = (b₀.toNat - 0xe0) * 0x1000 + (b₁.toNat - 0x80) * 0x40 + (b₂.toNat - 0x80)) :
      Sequence v [b₀, b₁, b₂]
  | four (b₀ b₁ b₂ b₃ : UInt8) (h₀ : 0xf0 ≤ b₀.toNat ∧ b₀.toNat ≤ 0xf4) (h₁ : Continues b₁) (h₂ : Continues b₂)
      (h₃ : Continues b₃) (low : b₀.toNat = 0xf0 → 0x90 ≤ b₁.toNat) (high : b₀.toNat = 0xf4 → b₁.toNat ≤ 0x8f)
      (hv : v = (b₀.toNat - 0xf0) * 0x40000 + (b₁.toNat - 0x80) * 0x1000 + (b₂.toNat - 0x80) * 0x40
        + (b₃.toNat - 0x80)) : Sequence v [b₀, b₁, b₂, b₃]

theorem sequence_utf8EncodeChar (c : Char) : Sequence c.val.toNat (String.utf8EncodeChar c) := by
  have hv := c.valid
  simp only [UInt32.isValidChar, Nat.isValidChar] at hv
  have hdiv : ∀ n : Nat, n / 262144 = n / 4096 / 64 := fun n => (Nat.div_div_eq_div_mul n 4096 64).symm
  have hdiv' : ∀ n : Nat, n / 4096 = n / 64 / 64 := fun n => (Nat.div_div_eq_div_mul n 64 64).symm
  simp only [String.utf8EncodeChar, hdiv, hdiv']
  generalize c.val.toNat = v at *
  split_ifs
  all_goals constructor <;> simp only [Continues, UInt8.toNat_ofNat'] <;> omega

-- The first byte tells how many there are, and the bytes of greater numbers are as many or more.
theorem Sequence.lt {v w : Nat} {bs cs : List UInt8} (hb : Sequence v bs) (hc : Sequence w cs) (h : v < w)
    (xs ys : List UInt8) : BytesLt (bs ++ xs) (cs ++ ys) := by
  cases hb <;> cases hc
  all_goals
    simp only [BytesLt, List.cons_append, List.nil_append, List.cons_lex_cons_iff, ← UInt8.toNat_inj]
    omega

theorem flatMap_utf8EncodeChar_lt {xs ys : List Char} (h : xs < ys) :
    BytesLt (xs.flatMap String.utf8EncodeChar) (ys.flatMap String.utf8EncodeChar) := by
  induction h
  case nil c ys =>
    obtain ⟨b, bs, hb⟩ := List.exists_cons_of_ne_nil (String.utf8EncodeChar_ne_nil (c := c))
    rw [List.flatMap_cons, hb]
    exact .nil
  case rel c xs d ys hcd =>
    rw [List.flatMap_cons, List.flatMap_cons]
    exact (sequence_utf8EncodeChar c).lt (sequence_utf8EncodeChar d) hcd _ _
  case cons c xs ys _ hi =>
    rw [List.flatMap_cons, List.flatMap_cons]
    exact List.Lex.append_left _ hi _

theorem precedes_of_lt {a b : String} (h : a < b) : Precedes a b := by
  rw [Precedes, bytes_eq, bytes_eq]
  exact flatMap_utf8EncodeChar_lt h

end ErrorOrigins.Text
