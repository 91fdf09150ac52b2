import ErrorOrigins.Proofs.Collecting
import ErrorOrigins.Proofs.ErrorIndex
import ErrorOrigins.Proofs.ReturnSites

namespace ErrorOrigins

namespace FunctionDecl

variable {f : FunctionDecl} {index : Nat}

def results (f : FunctionDecl) : List ResultField :=
  f.signature.elim [] (·.results)

-- The number of values that a function returns.
def valueCount (f : FunctionDecl) : Nat :=
  f.results.foldr (fun r n => r.arity + n) 0

def ReturnsError (f : FunctionDecl) : Prop :=
  ∃ r ∈ f.results, r.type = .named "error"

theorem declaredTypes_eq (f : FunctionDecl) :
    declaredTypes f.signature = f.results.flatMap (·.valueTypes) := by
  rw [results]
  cases f.signature <;> rfl

theorem length_declaredTypes (f : FunctionDecl) : (declaredTypes f.signature).length = f.valueCount := by
  rw [declaredTypes_eq, valueCount]
  induction f.results
  case nil => rfl
  case cons r rs hi =>
    rw [List.flatMap_cons, List.length_append, hi, ResultField.valueTypes, List.length_replicate]
    rfl

theorem mem_declaredTypes {type : TypeExpr} :
    type ∈ declaredTypes f.signature ↔ ∃ r ∈ f.results, r.type = type := by
  have hr : ∀ r : ResultField, type ∈ r.valueTypes ↔ r.type = type := by
    intro r
    rw [ResultField.valueTypes, List.mem_replicate, eq_comm]
    exact and_iff_right (Nat.ne_of_gt r.arity_pos)
  simp [declaredTypes_eq, hr]

theorem errorIndex_eq_none_iff : f.errorIndex = none ↔ ¬f.ReturnsError := by
  rw [errorIndex_eq_findIdx?, findIdx?_isError_eq_none_iff, mem_declaredTypes]
  rfl

theorem errorIndex_lt_valueCount (h : f.errorIndex = some index) : index < f.valueCount := by
  rw [errorIndex_eq_findIdx?, List.findIdx?_eq_some_iff_getElem] at h
  obtain ⟨hl, _⟩ := h
  exact f.length_declaredTypes ▸ hl

end FunctionDecl

def Decl.ReturnsError : Decl → Prop
  | .function f => f.ReturnsError
  | .other _ _  => False

def Scope.block (scope : Scope) (sites : List ReturnSite) : List Event :=
  .enter scope :: sites.map (.site scope) ++ [.leave scope]

-- What a block tells of a function, which its scope is of. The index is that of one of the values it returns, so a
-- return that lists all of them has an expression there.
structure Tells (path : Option String) (f : FunctionDecl) (scope : Scope) (sites : List ReturnSite) : Prop where
  scope_eq  : scope = { path, function := f, errorIndex := scope.errorIndex }
  index_lt  : scope.errorIndex < f.valueCount
  bodiless  : f.body = none → sites = []
  complete  : ∀ body, f.body = some body → sites = returnSites scope.errorIndex body
  described : ∀ site ∈ sites, site.Described

-- The events of some declarations of a file: a block for each function that returns an error, in their order.
inductive Told (path : Option String) : List Decl → List Event → Prop
  | nil :
    Told path [] []
  | block {f : FunctionDecl} {scope : Scope} {sites : List ReturnSite} {decls : List Decl} {events : List Event}
      (hr : f.ReturnsError) (hs : Tells path f scope sites) (ht : Told path decls events) :
    Told path (.function f :: decls) (scope.block sites ++ events)
  | silent {d : Decl} {decls : List Decl} {events : List Event}
      (hn : ¬d.ReturnsError) (ht : Told path decls events) :
    Told path (d :: decls) events

-- The second list is the first with declarations put in, anywhere, that return no error.
inductive Padded : List Decl → List Decl → Prop
  | nil :
    Padded [] []
  | keep {decls decls' : List Decl} (d : Decl) (hp : Padded decls decls') :
    Padded (d :: decls) (d :: decls')
  | insert {decls decls' : List Decl} (d : Decl) (hn : ¬d.ReturnsError) (hp : Padded decls decls') :
    Padded decls (d :: decls')

namespace SourceTree

variable {t : SourceTree} {f : FunctionDecl} {d : Decl}

def declEvents (t : SourceTree) : Decl → List Event
  | .function f => t.functionEvents f
  | .other _ _  => []

theorem events_eq_flatMap (t : SourceTree) : t.events = t.decls.flatMap t.declEvents := by
  rw [events, functions]
  induction t.decls
  case nil             => rfl
  case cons d decls hi => cases d <;> simp [declEvents, hi]

-- Of the tree only the path matters for what a declaration is told as.
theorem events_withDecls (t : SourceTree) (decls : List Decl) :
    ({ t with decls } : SourceTree).events = decls.flatMap t.declEvents :=
  events_eq_flatMap { t with decls }

theorem declEvents_of_silent (h : ¬d.ReturnsError) : t.declEvents d = [] := by
  cases d
  case other => rfl
  case function f =>
    have he : f.errorIndex = none := FunctionDecl.errorIndex_eq_none_iff.mpr h
    exact functionEvents_of_none (by simp [scope?, he])

theorem functionEvents_tells (t : SourceTree) (h : f.ReturnsError) :
    ∃ scope sites, t.functionEvents f = scope.block sites ∧ Tells t.path f scope sites := by
  cases he : f.errorIndex
  case none => exact absurd h (FunctionDecl.errorIndex_eq_none_iff.mp he)
  case some index =>
    have hs := scope?_eq_some_iff (t := t) |>.mpr ⟨index, he, rfl⟩
    refine ⟨_, f.sites index, functionEvents_of_some hs, rfl, ?lt, ?bodiless, ?complete, ?described⟩
    case lt        => exact FunctionDecl.errorIndex_lt_valueCount he
    case bodiless  => exact fun hb => f.sites_of_no_body hb index
    case complete  => exact fun body hb => f.sites_of_body hb index
    case described => exact fun _ => described_of_mem_returnSites

theorem told_events (t : SourceTree) : Told t.path t.decls t.events := by
  rw [events_eq_flatMap]
  induction t.decls
  case nil => exact .nil
  case cons d decls hi =>
    rw [List.flatMap_cons]
    by_cases hr : d.ReturnsError
    case neg => exact declEvents_of_silent hr ▸ .silent hr hi
    case pos =>
      cases d
      case other => exact hr.elim
      case function f =>
        obtain ⟨scope, sites, he, ht⟩ := t.functionEvents_tells hr
        rw [declEvents, he]
        exact .block hr ht hi

theorem flatMap_declEvents_of_padded {decls decls' : List Decl} (t : SourceTree) (h : Padded decls decls') :
    decls.flatMap t.declEvents = decls'.flatMap t.declEvents := by
  induction h
  case nil            => rfl
  case keep d _ hi    => rw [List.flatMap_cons, List.flatMap_cons, hi]
  case insert hn _ hi => rw [List.flatMap_cons, declEvents_of_silent hn, hi, List.nil_append]

end SourceTree

namespace Sparse

def place (line column : UInt32) : Position :=
  { line, column }

-- One return has the three values, the other none of them.
def load : FunctionDecl where
  name      := "Load"
  position  := place 6 1
  signature := some { results := [
    { names := ["n", "m"], type := .named "int" }, { names := ["err"], type := .named "error" }] }
  body      := some [
    .ret (place 7 2) [.ident (place 7 9) "n", .ident (place 7 12) "m",
      .selector (place 7 15) (.ident (place 7 15) "io") "EOF"],
    .ret (place 8 2) []]

def stub : FunctionDecl where
  name      := "stub"
  position  := place 10 1
  signature := some { results := [{ names := [], type := .named "error" }] }
  body      := none

def count : FunctionDecl where
  name      := "Count"
  position  := place 3 1
  signature := some { results := [{ names := [], type := .named "int" }] }
  body      := some [.ret (place 4 2) [.ident (place 4 9) "n"]]

def decls : List Decl :=
  [.function load, .function stub]

def tree : SourceTree where
  path    := some "a.go"
  package := some "a"
  decls   := [.other "import_declaration" (place 1 1), .function count, .function load,
    .other "var_declaration" (place 9 1), .function stub]

theorem padded : Padded decls tree.decls :=
  .insert _ (by simp [Decl.ReturnsError]) <|
  .insert _ (by simp [Decl.ReturnsError, FunctionDecl.ReturnsError, FunctionDecl.results, count]) <|
  .keep _ <| .insert _ (by simp [Decl.ReturnsError]) <| .keep _ .nil

end Sparse

-- The events of a file are the blocks of its functions that return an error. Declarations that return none can be
-- put in or taken out, and the events stay what they are.
theorem events_blocks (t : SourceTree) :
    Told t.path t.decls t.events ∧
    ∀ decls, Padded t.decls decls ∨ Padded decls t.decls → ({ t with decls } : SourceTree).events = t.events := by
  refine ⟨t.told_events, fun decls h => ?_⟩
  rw [t.events_withDecls, t.events_eq_flatMap]
  cases h
  case inl h => exact (t.flatMap_declEvents_of_padded h).symm
  case inr h => exact t.flatMap_declEvents_of_padded h

theorem events_blocks_sparse :
    Padded Sparse.decls Sparse.tree.decls ∧
    ({ Sparse.tree with decls := Sparse.decls } : SourceTree).events = Sparse.tree.events ∧
    Told (some "a.go") Sparse.tree.decls Sparse.tree.events ∧
    Sparse.tree.events.head? = some (.enter {
      path := some "a.go", function := Sparse.load, errorIndex := 2 }) := by
  obtain ⟨ht, hd⟩ := events_blocks Sparse.tree
  exact ⟨Sparse.padded, hd Sparse.decls (.inr Sparse.padded), ht, rfl⟩

end ErrorOrigins
