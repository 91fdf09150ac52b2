import ErrorOrigins.Proofs.ByteOrder
import ErrorOrigins.Text.Utf8
import Mathlib.Order.Bounds.Basic

namespace ErrorOrigins.Text

section Encoding

variable {v : Nat} {bytes : List UInt8}

theorem Sequence.isValidChar (h : Sequence v bytes) : v.isValidChar := by
  rw [Nat.isValidChar]
  cases h <;> omega

theorem Sequence.eq_utf8EncodeChar (h : Sequence v bytes) : bytes = String.utf8EncodeChar (Char.ofNat v) := by
  have hc : Char.ofNat v = Char.ofNatAux v h.isValidChar := dif_pos h.isValidChar
  have hn : (Char.ofNat v).val.toNat = v := congrArg (·.val.toNat) hc
  simp only [String.utf8EncodeChar, hn]
  cases h
  case one b₀ h₀ hv => rw [if_pos (by omega), hv, UInt8.ofNat_toNat]
  case two =>
    rw [if_neg (by omega), if_pos (by omega)]
    simp only [List.cons.injEq, and_true, ← UInt8.toNat_inj, UInt8.toNat_ofNat']
    omega
  case three =>
    rw [if_neg (by omega), if_neg (by omega), if_pos (by omega)]
    simp only [List.cons.injEq, and_true, ← UInt8.toNat_inj, UInt8.toNat_ofNat']
    omega
  case four =>
    rw [if_neg (by omega), if_neg (by omega), if_neg (by omega)]
    simp only [List.cons.injEq, and_true, ← UInt8.toNat_inj, UInt8.toNat_ofNat']
    omega

end Encoding

section First

variable {b₀ b₁ : UInt8} {bytes rest : List UInt8}

theorem isContinuation_iff : isContinuation b₁ ↔ Continues b₁ := by
  simp [isContinuation, UInt8.le_iff_toNat_le]

theorem isSecondOfThree_iff :
    isSecondOfThree b₀ b₁ ↔
      Continues b₁ ∧ (b₀.toNat = 0xe0 → 0xa0 ≤ b₁.toNat) ∧ (b₀.toNat = 0xed → b₁.toNat ≤ 0x9f) := by
  simp [isSecondOfThree, isContinuation_iff, UInt8.le_iff_toNat_le, ← UInt8.toNat_inj]
  omega

theorem isSecondOfFour_iff :
    isSecondOfFour b₀ b₁ ↔
      Continues b₁ ∧ (b₀.toNat = 0xf0 → 0x90 ≤ b₁.toNat) ∧ (b₀.toNat = 0xf4 → b₁.toNat ≤ 0x8f) := by
  simp [isSecondOfFour, isContinuation_iff, UInt8.le_iff_toNat_le, ← UInt8.toNat_inj]
  omega

theorem not_lt_of_first {low high : Nat} (h : low ≤ b₀.toNat ∧ b₀.toNat ≤ high) (hl : 0x80 ≤ low) : ¬b₀ < 0x80 := by
  rw [UInt8.lt_iff_toNat_lt]
  exact Nat.not_lt.mpr (hl.trans h.left)

theorem not_le_of_first {low high : Nat} (h : low ≤ b₀.toNat ∧ b₀.toNat ≤ high) {b : UInt8} (hl : b.toNat < low) :
    ¬b₀ ≤ b := by
  rw [UInt8.le_iff_toNat_le]
  exact Nat.not_le.mpr (hl.trans_le h.left)

-- The ranges of the first byte are apart, so only one form of a sequence is tried.
theorem decodeChar?_of_sequence {v : Nat} (h : Sequence v bytes) (rest : List UInt8) :
    decodeChar? (bytes ++ rest) = some (Char.ofNat v, bytes.length, rest) := by
  cases h
  case one b₀ h₀ hv =>
    have h : b₀ < 0x80 := UInt8.lt_iff_toNat_lt.mpr (Nat.lt_succ_of_le h₀)
    simp [decodeChar?, h, hv]
  case two b₀ b₁ h₀ h₁ hv =>
    have h : 0xc2 ≤ b₀ ∧ b₀ ≤ 0xdf := h₀
    have hs : isContinuation b₁ := isContinuation_iff.mpr h₁
    simp only [decodeChar?, List.cons_append, List.nil_append, if_neg (not_lt_of_first h₀ (by decide)), h, hs, hv]
    rfl
  case three b₀ b₁ b₂ h₀ h₁ h₂ low high hv =>
    have h : 0xe0 ≤ b₀ ∧ b₀ ≤ 0xef := h₀
    have hs : isSecondOfThree b₀ b₁ := isSecondOfThree_iff.mpr ⟨h₁, low, high⟩
    have ht : isContinuation b₂ := isContinuation_iff.mpr h₂
    simp [decodeChar?, not_lt_of_first h₀, not_le_of_first (b := 0xdf) h₀, h, hs, ht, hv]
    rfl
  case four b₀ b₁ b₂ b₃ h₀ h₁ h₂ h₃ low high hv =>
    have h : 0xf0 ≤ b₀ ∧ b₀ ≤ 0xf4 := h₀
    have hs : isSecondOfFour b₀ b₁ := isSecondOfFour_iff.mpr ⟨h₁, low, high⟩
    have ht : isContinuation b₂ ∧ isContinuation b₃ := ⟨isContinuation_iff.mpr h₂, isContinuation_iff.mpr h₃⟩
    simp [decodeChar?, not_lt_of_first h₀, not_le_of_first (b := 0xdf) h₀, not_le_of_first (b := 0xef) h₀,
      h, hs, ht, hv]
    rfl

theorem sequence_of_decodeChar? {c : Char} {n : Nat} (h : decodeChar? bytes = some (c, n, rest)) :
    ∃ v front, Sequence v front ∧ bytes = front ++ rest ∧ c = Char.ofNat v ∧ n = front.length := by
  rcases bytes with _ | ⟨b₀, bytes⟩
  · simp [decodeChar?] at h
  by_cases ho : b₀ < 0x80
  · simp only [decodeChar?, if_pos ho, Option.some.injEq, Prod.mk.injEq] at h
    obtain ⟨rfl, rfl, rfl⟩ := h
    exact ⟨_, _, .one b₀ (Nat.le_of_lt_succ ho) rfl, rfl, rfl, rfl⟩
  rcases bytes with _ | ⟨b₁, bytes⟩
  · simp [decodeChar?, ho] at h
  by_cases ht : 0xc2 ≤ b₀ ∧ b₀ ≤ 0xdf
  · by_cases h₁ : isContinuation b₁ <;> simp [decodeChar?, ho, ht, h₁] at h
    obtain ⟨rfl, rfl, rfl⟩ := h
    exact ⟨_, _, .two b₀ b₁ ht (isContinuation_iff.mp h₁) rfl, rfl, rfl, rfl⟩
  rcases bytes with _ | ⟨b₂, bytes⟩
  · simp [decodeChar?, ho, ht] at h
  by_cases hh : 0xe0 ≤ b₀ ∧ b₀ ≤ 0xef
  · by_cases hs : isSecondOfThree b₀ b₁ ∧ isContinuation b₂ <;> simp [decodeChar?, ho, ht, hh, hs] at h
    obtain ⟨rfl, rfl, rfl⟩ := h
    obtain ⟨h₁, low, high⟩ := isSecondOfThree_iff.mp hs.left
    exact ⟨_, _, .three b₀ b₁ b₂ hh h₁ (isContinuation_iff.mp hs.right) low high rfl, rfl, rfl, rfl⟩
  rcases bytes with _ | ⟨b₃, bytes⟩
  · simp [decodeChar?, ho, ht, hh] at h
  by_cases hf : 0xf0 ≤ b₀ ∧ b₀ ≤ 0xf4 <;> simp [decodeChar?, ho, ht, hh, hf] at h
  obtain ⟨⟨⟨hs, h₂⟩, h₃⟩, rfl, rfl, rfl⟩ := h
  obtain ⟨h₁, low, high⟩ := isSecondOfFour_iff.mp hs
  have hc : Continues b₂ ∧ Continues b₃ := ⟨isContinuation_iff.mp h₂, isContinuation_iff.mp h₃⟩
  exact ⟨_, _, .four b₀ b₁ b₂ b₃ hf h₁ hc.left hc.right low high rfl, rfl, rfl, rfl⟩

theorem decodeChar?_utf8EncodeChar (c : Char) (rest : List UInt8) :
    decodeChar? (String.utf8EncodeChar c ++ rest) = some (c, (String.utf8EncodeChar c).length, rest) := by
  have hc : Char.ofNat c.val.toNat = c := Char.ofNat_toNat c
  rw [decodeChar?_of_sequence (sequence_utf8EncodeChar c), hc]

theorem eq_of_decodeChar? {c : Char} {n : Nat} (h : decodeChar? bytes = some (c, n, rest)) :
    bytes = String.utf8EncodeChar c ++ rest ∧ n = (String.utf8EncodeChar c).length := by
  obtain ⟨v, front, hs, rfl, rfl, rfl⟩ := sequence_of_decodeChar? h
  rw [← hs.eq_utf8EncodeChar]
  exact ⟨rfl, rfl⟩

end First

section Texts

variable {bytes front rest : List UInt8} {offset : Nat} {decoded chars : List Char}

theorem go_nil (offset : Nat) (decoded : List Char) : decodeUtf8.go [] offset decoded = .ok decoded.reverse := by
  rw [decodeUtf8.go]
  rfl

theorem go_of_none (hb : bytes ≠ []) (hn : decodeChar? bytes = none) :
    decodeUtf8.go bytes offset decoded = .error offset := by
  rw [decodeUtf8.go, if_neg (mt List.isEmpty_iff.mp hb)]
  split
  case h_1    => rfl
  case h_2 hs => cases hn.symm.trans hs

theorem go_utf8EncodeChar (c : Char) (rest : List UInt8) :
    decodeUtf8.go (String.utf8EncodeChar c ++ rest) offset decoded =
      decodeUtf8.go rest (offset + (String.utf8EncodeChar c).length) (c :: decoded) := by
  have hd := decodeChar?_utf8EncodeChar c rest
  have hb : String.utf8EncodeChar c ++ rest ≠ [] := List.append_ne_nil_of_left_ne_nil String.utf8EncodeChar_ne_nil rest
  rw [decodeUtf8.go, if_neg (mt List.isEmpty_iff.mp hb)]
  split
  case h_1 hn => cases hd.symm.trans hn
  case h_2 hs =>
    cases hd.symm.trans hs
    rfl

theorem go_utf8Encode (chars : List Char) (rest : List UInt8) (offset : Nat) (decoded : List Char) :
    decodeUtf8.go (chars.flatMap String.utf8EncodeChar ++ rest) offset decoded =
      decodeUtf8.go rest (offset + (chars.flatMap String.utf8EncodeChar).length) (chars.reverse ++ decoded) := by
  induction chars generalizing offset decoded
  case nil => simp
  case cons c chars hi =>
    rw [List.flatMap_cons, List.append_assoc, go_utf8EncodeChar, hi]
    simp [Nat.add_assoc]

theorem decodeUtf8_utf8Encode (chars : List Char) (rest : List UInt8) :
    decodeUtf8 (chars.flatMap String.utf8EncodeChar ++ rest) =
      decodeUtf8.go rest (chars.flatMap String.utf8EncodeChar).length chars.reverse := by
  rw [decodeUtf8, go_utf8Encode, Nat.zero_add, List.append_nil]

-- Characters are taken off as long as there are any.
theorem exists_chars (bytes : List UInt8) :
    ∃ (chars : List Char) (rest : List UInt8), bytes = chars.flatMap String.utf8EncodeChar ++ rest ∧
      decodeChar? rest = none := by
  induction hn : bytes.length using Nat.strong_induction_on generalizing bytes
  case h n hi =>
    cases hd : decodeChar? bytes
    case none => exact ⟨[], bytes, rfl, hd⟩
    case some found =>
      obtain ⟨c, n', rest⟩ := found
      obtain ⟨chars, rest', rfl, hr⟩ := hi rest.length (hn ▸ decodeChar?_length hd) rest rfl
      obtain ⟨rfl, -⟩ := eq_of_decodeChar? hd
      exact ⟨c :: chars, rest', by simp, hr⟩

theorem decodeUtf8_eq_ok_iff : decodeUtf8 bytes = .ok chars ↔ bytes = chars.flatMap String.utf8EncodeChar := by
  constructor
  case mp =>
    intro h
    obtain ⟨chars', rest, rfl, hr⟩ := exists_chars bytes
    rw [decodeUtf8_utf8Encode] at h
    by_cases hb : rest = []
    case pos =>
      rw [hb, go_nil, List.reverse_reverse] at h
      rw [hb, List.append_nil, Except.ok.inj h]
    case neg => cases (go_of_none hb hr).symm.trans h
  case mpr =>
    rintro rfl
    have h := decodeUtf8_utf8Encode chars []
    rwa [List.append_nil, go_nil, List.reverse_reverse] at h

end Texts

end ErrorOrigins.Text
