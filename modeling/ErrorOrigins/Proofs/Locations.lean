import ErrorOrigins.Proofs.Lookup
import ErrorOrigins.Source.Position
import Mathlib.Logic.Function.Basic

namespace ErrorOrigins

namespace Text

-- The number of 32 bits that some decimal digits stand for.
def decimal? (digits : List Char) : Option UInt32 :=
  let n := Nat.ofDigitChars 10 digits 0
  if digits ≠ [] ∧ digits.all Char.isDigit ∧ n < UInt32.size then some (.ofNat n) else none

theorem toList_toString (n : UInt32) : (toString n).toList = Nat.toDigits 10 n.toNat :=
  Nat.toList_repr

theorem isDigit_of_mem_toString {n : UInt32} {c : Char} (h : c ∈ (toString n).toList) : c.isDigit := by
  rw [toList_toString] at h
  exact Nat.isDigit_of_mem_toDigits (by decide) (by decide) h

theorem decimal?_toString (n : UInt32) : decimal? (toString n).toList = some n := by
  have hd : (toString n).toList.all Char.isDigit := List.all_eq_true.mpr fun _ => isDigit_of_mem_toString
  rw [toList_toString] at hd ⊢
  rw [decimal?, Nat.ofDigitChars_ten_toDigits, if_pos ⟨Nat.toDigits_ne_nil, hd, n.toNat_lt⟩, UInt32.ofNat_toNat]

theorem splitOn_toString (n : UInt32) : List.splitOn ':' (toString n).toList = [(toString n).toList] := by
  refine List.splitOn_eq_singleton fun hc => ?_
  exact absurd (isDigit_of_mem_toString hc) (by decide)

end Text

-- The pieces of a text between colons: the last two are the position, and all before them are the file.
def Location.ofText? (text : String) : Option Location :=
  match (List.splitOn ':' text.toList).reverse with
  | column :: line :: front => do
    let column ← Text.decimal? column
    let line ← Text.decimal? line
    let file := if front = [] then none else some (String.ofList ([':'].intercalate front.reverse))
    return { file, position := { line, column } }
  | _ => none

theorem Position.splitOn_text (p : Position) :
    List.splitOn ':' p.text.toList = [(toString p.line).toList, (toString p.column).toList] := by
  have ht : p.text.toList = (toString p.line).toList ++ ':' :: (toString p.column).toList := by
    simp [text]
  rw [ht, List.splitOn_append_cons_self, Text.splitOn_toString, Text.splitOn_toString, List.singleton_append]

namespace Location

-- The pieces of the file, if there is one. An empty name has one piece, so it differs from none.
def filePieces (l : Location) : List (List Char) :=
  match l.file with
  | none      => []
  | some file => List.splitOn ':' file.toList

theorem splitOn_text (l : Location) :
    List.splitOn ':' l.text.toList = l.filePieces ++ List.splitOn ':' l.position.text.toList := by
  obtain ⟨_ | file, position⟩ := l
  case none => rfl
  case some =>
    have ht : (text ⟨some file, position⟩).toList = file.toList ++ ':' :: position.text.toList := by
      simp [text]
    rw [ht, List.splitOn_append_cons_self]
    rfl

theorem file_eq (l : Location) :
    l.file = if l.filePieces = [] then none else some (String.ofList ([':'].intercalate l.filePieces)) := by
  obtain ⟨_ | file, position⟩ := l
  case none => rfl
  case some =>
    have hn : filePieces ⟨some file, position⟩ ≠ [] := List.splitOn_ne_nil ':' file.toList
    rw [if_neg hn, filePieces, List.intercalate_splitOn, String.ofList_toList]

theorem ofText?_text (l : Location) : ofText? l.text = some l := by
  have hp : (List.splitOn ':' l.text.toList).reverse =
      (toString l.position.column).toList :: (toString l.position.line).toList :: l.filePieces.reverse := by
    rw [splitOn_text, Position.splitOn_text, List.reverse_append]
    rfl
  have hf : (if l.filePieces.reverse = [] then none else
      some (String.ofList ([':'].intercalate l.filePieces.reverse.reverse))) = l.file := by
    rw [List.reverse_reverse, l.file_eq]
    simp only [List.reverse_eq_nil_iff]
  simp only [ofText?, hp, Text.decimal?_toString, hf]
  rfl

end Location

-- Every location can be read back from its text, so no two locations have the same text.
theorem location_text_readBack :
    (∀ l : Location, Location.ofText? l.text = some l) ∧ Function.Injective Location.text := by
  refine ⟨Location.ofText?_text, fun l l' h => ?_⟩
  have hs : some l = some l' := by
    rw [← l.ofText?_text, h, l'.ofText?_text]
  exact Option.some.inj hs

-- Digits and colons in the name of a file, an empty name and no name at all are told apart.
example :
    ["a:3:7:1:2", ":1:2", "1:2", "3:1:2"].map Location.ofText? =
      [some "a:3:7", some "", none, some "3"].map fun file => some ⟨file, 1, 2⟩ := by
  decide

end ErrorOrigins
