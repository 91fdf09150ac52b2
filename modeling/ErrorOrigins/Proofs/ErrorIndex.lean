import ErrorOrigins.Audit.Classification
import Mathlib.Order.Bounds.Defs

namespace ErrorOrigins

-- The type of each value that a field declares.
def ResultField.valueTypes (f : ResultField) : List TypeExpr :=
  List.replicate f.arity f.type

theorem ResultField.arity_pos (f : ResultField) : 0 < f.arity :=
  Nat.lt_of_lt_of_le Nat.zero_lt_one (Nat.le_max_left ..)

theorem ResultField.findIdx?_valueTypes (f : ResultField) :
    f.valueTypes.findIdx? (·.isError) = if f.type.isError then some 0 else none := by
  simp [valueTypes, List.findIdx?_replicate, f.arity_pos]

-- The type of each value that a signature declares, with every field written out.
def declaredTypes (s : Option Signature) : List TypeExpr :=
  s.elim [] fun s => s.results.flatMap fun f => List.replicate (max 1 f.names.length) f.type

-- The scan is ahead of the values it looks at by those it has passed.
theorem classifyFields_eq (index : Nat) (fields : List ResultField) :
    classifyFields index fields =
      ((fields.flatMap (·.valueTypes)).findIdx? (·.isError)).elim (.default, none)
        fun k => (.error, some (index + k)) := by
  induction fields generalizing index
  case nil => rfl
  case cons f fields hi =>
    rw [classifyFields, List.flatMap_cons, List.findIdx?_append, f.findIdx?_valueTypes, hi]
    cases f.type.isError
    case true  => rfl
    case false =>
      -- The values of the first field stand before those of the others.
      cases (fields.flatMap (·.valueTypes)).findIdx? (·.isError)
      case none   => rfl
      case some k => simp [ResultField.valueTypes, Nat.add_left_comm, Nat.add_comm]

theorem classifyResults_eq (s : Option Signature) :
    classifyResults s =
      ((declaredTypes s).findIdx? (·.isError)).elim (.default, none) fun k => (.error, some k) := by
  cases s
  case none   => rfl
  case some s =>
    rw [classifyResults, classifyFields_eq]
    simp only [Nat.zero_add]
    rfl

theorem FunctionDecl.errorIndex_eq_findIdx? (f : FunctionDecl) :
    f.errorIndex = (declaredTypes f.signature).findIdx? (·.isError) := by
  rw [errorIndex, classifyResults_eq]
  cases (declaredTypes f.signature).findIdx? (·.isError) <;> rfl

theorem TypeExpr.isError_iff {t : TypeExpr} : t.isError ↔ t = .named "error" := by
  simp [isError]

theorem findIdx?_isError_eq_some_iff {types : List TypeExpr} {k : Nat} :
    types.findIdx? (·.isError) = some k ↔ IsLeast {i | types[i]? = some (.named "error")} k := by
  rw [List.findIdx?_eq_some_iff_getElem]
  constructor
  case mp =>
    intro ⟨hk, he, hl⟩
    refine ⟨List.getElem?_eq_some_iff.mpr ⟨hk, TypeExpr.isError_iff.mp he⟩, fun j hj => ?_⟩
    obtain ⟨hj, ht⟩ := List.getElem?_eq_some_iff.mp hj
    -- An error before the first one would have been found.
    exact Nat.le_of_not_lt fun hn => hl j hn (TypeExpr.isError_iff.mpr ht)
  case mpr =>
    intro ⟨he, hl⟩
    obtain ⟨hk, ht⟩ := List.getElem?_eq_some_iff.mp he
    refine ⟨hk, TypeExpr.isError_iff.mpr ht, fun j hj hn => ?_⟩
    have hm : types[j]? = some (.named "error") :=
      List.getElem?_eq_some_iff.mpr ⟨Nat.lt_trans hj hk, TypeExpr.isError_iff.mp hn⟩
    exact Nat.not_lt_of_le (hl hm) hj

theorem findIdx?_isError_eq_none_iff {types : List TypeExpr} :
    types.findIdx? (·.isError) = none ↔ .named "error" ∉ types := by
  rw [List.findIdx?_eq_none_iff]
  constructor
  case mp =>
    intro h he
    simpa [TypeExpr.isError] using h _ he
  case mpr =>
    intro h t ht
    have hn : t ≠ .named "error" := fun he => h (he ▸ ht)
    simpa [TypeExpr.isError] using hn

-- A signature is classified by the values it declares: as one with an error at the place of the first, or as
-- one without. The functions that have it agree.
theorem classifyResults_isLeast :
    (∀ s k, classifyResults s = (.error, some k) ↔
      IsLeast {i | (declaredTypes s)[i]? = some (.named "error")} k) ∧
    (∀ s, classifyResults s = (.default, none) ↔ .named "error" ∉ declaredTypes s) ∧
    ∀ f : FunctionDecl,
      f.errorIndex = (classifyResults f.signature).2 ∧
      (f.hasError ↔ (classifyResults f.signature).1 = .error) := by
  refine ⟨fun s k => ?error, fun s => ?default, fun f => ?function⟩
  case error =>
    rw [← findIdx?_isError_eq_some_iff, classifyResults_eq]
    cases (declaredTypes s).findIdx? (·.isError) <;> simp
  case default =>
    rw [← findIdx?_isError_eq_none_iff, classifyResults_eq]
    cases (declaredTypes s).findIdx? (·.isError) <;> simp
  case function =>
    rw [FunctionDecl.hasError, FunctionDecl.errorIndex, classifyResults_eq]
    cases (declaredTypes f.signature).findIdx? (·.isError) <;> simp

-- Two grouped names and a type that only reads like `error` come before the first of two groups of errors.
example : classifyResults (some { results := [
    { names := ["a", "b"], type := .named "int" }, { names := [], type := .other "error" },
    { names := ["e", "err"], type := .named "error" }, { names := [], type := .named "error" }] }) =
    (.error, some 3) := by
  decide

end ErrorOrigins
