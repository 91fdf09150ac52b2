namespace ErrorOrigins.Text

-- A byte that continues a character.
def isContinuation (b : UInt8) : Bool :=
  0x80 ≤ b && b ≤ 0xbf

-- The bits that a continuation byte carries.
def continuationBits (b : UInt8) : Nat :=
  b.toNat - 0x80

-- The second byte of a sequence of three: overlong forms and surrogates are refused by a narrower range
-- after the first bytes `e0` and `ed`.
def isSecondOfThree (first second : UInt8) : Bool :=
  isContinuation second && (first != 0xe0 || 0xa0 ≤ second) && (first != 0xed || second ≤ 0x9f)

-- The second byte of a sequence of four, which is neither overlong nor beyond the last code point.
def isSecondOfFour (first second : UInt8) : Bool :=
  isContinuation second && (first != 0xf0 || 0x90 ≤ second) && (first != 0xf4 || second ≤ 0x8f)

-- The first character of some bytes, with the number of its bytes and the rest.
def decodeChar? : List UInt8 → Option (Char × Nat × List UInt8)
  | [] => none
  | b₀ :: rest =>
    if b₀ < 0x80 then some (Char.ofNat b₀.toNat, 1, rest) else
    match rest with
    | [] => none
    | b₁ :: rest =>
      if 0xc2 ≤ b₀ && b₀ ≤ 0xdf then
        if isContinuation b₁ then
          some (Char.ofNat ((b₀.toNat - 0xc0) * 0x40 + continuationBits b₁), 2, rest)
        else none
      else match rest with
      | [] => none
      | b₂ :: rest =>
        if 0xe0 ≤ b₀ && b₀ ≤ 0xef then
          if isSecondOfThree b₀ b₁ && isContinuation b₂ then
            some (Char.ofNat
              ((b₀.toNat - 0xe0) * 0x1000 + continuationBits b₁ * 0x40 + continuationBits b₂), 3, rest)
          else none
        else match rest with
        | [] => none
        | b₃ :: rest =>
          if 0xf0 ≤ b₀ && b₀ ≤ 0xf4 && isSecondOfFour b₀ b₁ && isContinuation b₂ && isContinuation b₃ then
            some (Char.ofNat
              ((b₀.toNat - 0xf0) * 0x40000 + continuationBits b₁ * 0x1000 + continuationBits b₂ * 0x40
                + continuationBits b₃), 4, rest)
          else none

theorem decodeChar?_length {bytes : List UInt8} {c : Char} {n : Nat} {rest : List UInt8}
    (h : decodeChar? bytes = some (c, n, rest)) : rest.length < bytes.length := by
  unfold decodeChar? at h
  repeat' split at h
  all_goals simp_all
  all_goals grind

-- The characters of some bytes, or the number of bytes before the first that is not well formed.
def decodeUtf8 (bytes : List UInt8) : Except Nat (List Char) :=
  go bytes 0 []
where
  go (bytes : List UInt8) (offset : Nat) (decoded : List Char) : Except Nat (List Char) :=
    if bytes.isEmpty then .ok decoded.reverse else
      match h : decodeChar? bytes with
      | none              => .error offset
      | some (c, n, rest) =>
        have := decodeChar?_length h
        go rest (offset + n) (c :: decoded)
  termination_by bytes.length

-- What the bytes after the first one of a character have to be.
def followers (first : UInt8) : List (UInt8 → Bool) :=
  if 0xc2 ≤ first && first ≤ 0xdf then [isContinuation]
  else if 0xe0 ≤ first && first ≤ 0xef then [isSecondOfThree first, isContinuation]
  else if 0xf0 ≤ first && first ≤ 0xf4 then [isSecondOfFour first, isContinuation, isContinuation]
  else []

-- How many bytes there are up to the first that is not as it has to be. There is no answer if the bytes end before.
def malformedLength? (count : Nat) : List (UInt8 → Bool) → List UInt8 → Option Nat
  | [], _                       => some count
  | _ :: _, []                  => none
  | check :: checks, b :: bytes => if check b then malformedLength? (count + 1) checks bytes else some count

end ErrorOrigins.Text
