import ErrorOrigins.Audit.Findings
import Mathlib.Data.List.Induction

namespace ErrorOrigins.Findings

-- Findings with the given counts, if counters can hold them.
def checked (origins : List Origin) (wrapped const : Nat) : Except Halt Findings :=
  if wrapped < UInt64.size ∧ const < UInt64.size then
    .ok { origins, wrappedCount := .ofNat wrapped, constCount := .ofNat const }
  else .error .counterOverflow

variable {origins origins' : List Origin} {w w' k k' : Nat} {a b m : Findings}

theorem ofNat_eq_iff {c : UInt64} (h : w < UInt64.size) : UInt64.ofNat w = c ↔ c.toNat = w := by
  rw [← UInt64.toNat_inj, UInt64.toNat_ofNat_of_lt' h]
  exact eq_comm

theorem checked_eq_ok_iff :
    checked origins w k = .ok m ↔
      m.origins = origins ∧ m.wrappedCount.toNat = w ∧ m.constCount.toNat = k := by
  have hw := m.wrappedCount.toNat_lt_size
  have hk := m.constCount.toNat_lt_size
  rw [checked]
  split
  case isTrue h =>
    rcases m with ⟨origins', wrappedCount, constCount⟩
    simp [ofNat_eq_iff h.left, ofNat_eq_iff h.right, eq_comm]
  case isFalse h => exact iff_of_false (by simp) (by omega)

theorem exists_checked_iff :
    (∃ m, checked origins w k = .ok m) ↔ w < UInt64.size ∧ k < UInt64.size := by
  rw [checked]
  split <;> simp_all

theorem checked_eq_error_iff :
    checked origins w k = .error .counterOverflow ↔ UInt64.size ≤ w ∨ UInt64.size ≤ k := by
  rw [checked]
  split
  case isTrue h  => exact iff_of_false (by simp) (by omega)
  case isFalse h => exact iff_of_true rfl (by omega)

theorem merge_eq_checked (a b : Findings) :
    a.merge b = checked (a.origins ++ b.origins) (a.wrappedCount.toNat + b.wrappedCount.toNat)
      (a.constCount.toNat + b.constCount.toNat) := by
  by_cases hw : a.wrappedCount.toNat + b.wrappedCount.toNat < UInt64.size <;>
  by_cases hk : a.constCount.toNat + b.constCount.toNat < UInt64.size <;>
    simp [merge, checkedAdd, checked, hw, hk, bind, Except.bind, pure, Except.pure]

theorem merge_eq_ok_iff :
    a.merge b = .ok m ↔
      m.origins = a.origins ++ b.origins ∧
      m.wrappedCount.toNat = a.wrappedCount.toNat + b.wrappedCount.toNat ∧
      m.constCount.toNat = a.constCount.toNat + b.constCount.toNat := by
  rw [merge_eq_checked]
  exact checked_eq_ok_iff

theorem exists_merge_iff :
    (∃ m, a.merge b = .ok m) ↔
      a.wrappedCount.toNat + b.wrappedCount.toNat < UInt64.size ∧
      a.constCount.toNat + b.constCount.toNat < UInt64.size := by
  simp only [merge_eq_checked]
  exact exists_checked_iff

-- Merges what two others have merged, each of which may have overflowed.
def mergeBoth (x y : Except Halt Findings) : Except Halt Findings := do
  let a ← x
  let b ← y
  a.merge b

-- Two parts overflow together if one of them does alone, so it makes no difference when this is found out.
theorem mergeBoth_checked :
    mergeBoth (checked origins w k) (checked origins' w' k') =
      checked (origins ++ origins') (w + w') (k + k') := by
  have he (h : UInt64.size ≤ w + w' ∨ UInt64.size ≤ k + k') :
      checked (origins ++ origins') (w + w') (k + k') = .error .counterOverflow :=
    checked_eq_error_iff.mpr h
  by_cases h : UInt64.size ≤ w ∨ UInt64.size ≤ k
  case pos =>
    rw [checked_eq_error_iff.mpr h, he (by omega)]
    rfl
  obtain ⟨a, ha⟩ : ∃ a, checked origins w k = .ok a := exists_checked_iff.mpr (by omega)
  by_cases h' : UInt64.size ≤ w' ∨ UInt64.size ≤ k'
  case pos =>
    rw [ha, checked_eq_error_iff.mpr h', he (by omega)]
    rfl
  obtain ⟨b, hb⟩ : ∃ b, checked origins' w' k' = .ok b := exists_checked_iff.mpr (by omega)
  rw [ha, hb]
  obtain ⟨rfl, rfl, rfl⟩ := checked_eq_ok_iff.mp ha
  obtain ⟨rfl, rfl, rfl⟩ := checked_eq_ok_iff.mp hb
  exact merge_eq_checked a b

-- What a counter comes to over some findings. Nothing overflows here.
def sumOf (counter : Findings → UInt64) (parts : List Findings) : Nat :=
  parts.foldr (fun part n => (counter part).toNat + n) 0

theorem sumOf_append (counter : Findings → UInt64) (xs ys : List Findings) :
    sumOf counter (xs ++ ys) = sumOf counter xs + sumOf counter ys := by
  induction xs
  case nil          => simp [sumOf]
  case cons x xs hi =>
    simp only [sumOf, List.cons_append, List.foldr_cons] at hi ⊢
    omega

-- The sums that all findings of a list come to, checked once.
def checkedSums (parts : List Findings) : Except Halt Findings :=
  checked (parts.flatMap (·.origins)) (sumOf (·.wrappedCount) parts) (sumOf (·.constCount) parts)

theorem checkedSums_singleton (a : Findings) : checkedSums [a] = .ok a := by
  have h : checked a.origins a.wrappedCount.toNat a.constCount.toNat = .ok a :=
    checked_eq_ok_iff.mpr ⟨rfl, rfl, rfl⟩
  simpa [checkedSums, sumOf] using h

theorem checkedSums_append (xs ys : List Findings) :
    checkedSums (xs ++ ys) = mergeBoth (checkedSums xs) (checkedSums ys) := by
  simp only [checkedSums, List.flatMap_append, sumOf_append, mergeBoth_checked]

theorem mergeAll_concat (parts : List Findings) (part : Findings) :
    mergeAll (parts ++ [part]) = mergeBoth (mergeAll parts) (.ok part) := by
  have h : mergeAll (parts ++ [part]) = mergeAll parts >>= (·.merge part) := by simp [mergeAll]
  exact h

theorem mergeAll_eq_checkedSums (parts : List Findings) : mergeAll parts = checkedSums parts := by
  induction parts using List.reverseRecOn
  case nil => rfl
  case append_singleton parts part hi =>
    rw [mergeAll_concat, checkedSums_append, checkedSums_singleton, hi]

-- A way to share out merging: some findings are merged one by one, or what two groups give is merged.
inductive Grouping
  | part (parts : List Findings)
  | join (first second : Grouping)

namespace Grouping

def parts : Grouping → List Findings
  | part parts        => parts
  | join first second => first.parts ++ second.parts

def merged : Grouping → Except Halt Findings
  | part parts        => mergeAll parts
  | join first second => mergeBoth first.merged second.merged

theorem merged_eq (g : Grouping) : g.merged = checkedSums g.parts := by
  induction g
  case part parts              => exact mergeAll_eq_checkedSums parts
  case join first second hf hs => rw [merged, parts, checkedSums_append, hf, hs]

end Grouping

namespace Full

def part (function : String) (wrappedCount constCount : UInt64) : Findings :=
  let location := { file := none, position := { line := 1, column := 1 } }
  { origins := [{ function, location, descriptors := ["E()"] }], wrappedCount, constCount }

-- Both counters can hold no more.
def parts : List Findings :=
  [part "F" 0xfffffffffffffffe 0, part "G" 1 0x8000000000000000, part "H" 0 0x7fffffffffffffff]

-- One more than the second counter can hold.
def last : Findings :=
  part "I" 0 1

end Full

-- Merging a list halts just if one of the sums over the whole list is too large, and gives all origins and both
-- sums if none is. So a list gives what its two parts give when merged, and what any grouping of it gives.
theorem mergeAll_sums :
    (∀ parts, mergeAll parts = .error .counterOverflow ↔
      UInt64.size ≤ sumOf (·.wrappedCount) parts ∨ UInt64.size ≤ sumOf (·.constCount) parts) ∧
    (∀ parts, sumOf (·.wrappedCount) parts < UInt64.size → sumOf (·.constCount) parts < UInt64.size →
      ∃ m, mergeAll parts = .ok m ∧ m.origins = parts.flatMap (·.origins) ∧
        m.wrappedCount.toNat = sumOf (·.wrappedCount) parts ∧
        m.constCount.toNat = sumOf (·.constCount) parts) ∧
    (∀ xs ys, mergeAll (xs ++ ys) = mergeBoth (mergeAll xs) (mergeAll ys)) ∧
    ∀ g : Grouping, g.merged = mergeAll g.parts := by
  refine ⟨fun parts => ?halts, fun parts hw hk => ?sums, fun xs ys => ?append, fun g => ?group⟩
  all_goals simp only [mergeAll_eq_checkedSums]
  case halts  => exact checked_eq_error_iff
  case sums   =>
    obtain ⟨m, hm⟩ := exists_checked_iff.mpr ⟨hw, hk⟩
    exact ⟨m, hm, checked_eq_ok_iff.mp hm⟩
  case append => exact checkedSums_append xs ys
  case group  => exact g.merged_eq

theorem mergeAll_sums_full :
    sumOf (·.wrappedCount) Full.parts = UInt64.size - 1 ∧ sumOf (·.constCount) Full.parts = UInt64.size - 1 ∧
    (∃ m, mergeAll Full.parts = .ok m ∧ m.origins.map (·.function) = ["F", "G", "H"] ∧
      m.wrappedCount = 0xffffffffffffffff ∧ m.constCount = 0xffffffffffffffff) ∧
    mergeAll (Full.parts ++ [Full.last]) = .error .counterOverflow ∧
    mergeBoth (mergeAll Full.parts) (mergeAll [Full.last]) = .error .counterOverflow := by
  obtain ⟨hh, hs, ha, _⟩ := mergeAll_sums
  obtain ⟨m, hm, ho, hw, hk⟩ := hs Full.parts (by decide) (by decide)
  have hl := (hh (Full.parts ++ [Full.last])).mpr (by decide)
  refine ⟨by decide, by decide, ⟨m, hm, by rw [ho]; rfl, ?_, ?_⟩, hl, ha Full.parts [Full.last] ▸ hl⟩
  · exact UInt64.toNat_inj.mp hw
  · exact UInt64.toNat_inj.mp hk

end ErrorOrigins.Findings
