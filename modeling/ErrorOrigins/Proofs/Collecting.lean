import ErrorOrigins.Audit.Findings

namespace ErrorOrigins

-- What is recorded of a function: nothing, unless some of its errors can be described.
def Scope.origin? (scope : Scope) (sites : List ReturnSite) : Option Origin :=
  if (descriptors sites).isEmpty then none else
    some { function := scope.function.name, location := scope.location, descriptors := descriptors sites }

namespace FunctionDecl

variable {f : FunctionDecl} {body : List Node}

def sites (f : FunctionDecl) (index : Nat) : List ReturnSite :=
  returnSites index (f.body.getD [])

theorem sites_of_no_body (h : f.body = none) (index : Nat) : f.sites index = [] := by
  simp [sites, h, returnSites, Node.preorder]

theorem sites_of_body (h : f.body = some body) (index : Nat) : f.sites index = returnSites index body := by
  simp [sites, h]

end FunctionDecl

namespace SourceTree

def origin? (t : SourceTree) (f : FunctionDecl) : Option Origin := do
  let scope ← t.scope? f
  scope.origin? (f.sites scope.errorIndex)

def origins (t : SourceTree) : List Origin :=
  t.functions.filterMap t.origin?

variable {t : SourceTree} {f : FunctionDecl} {scope : Scope}

theorem functionEvents_of_none (h : t.scope? f = none) : t.functionEvents f = [] := by
  simp [functionEvents, h]

theorem functionEvents_of_some (h : t.scope? f = some scope) :
    t.functionEvents f = .enter scope :: (f.sites scope.errorIndex).map (.site scope) ++ [.leave scope] := by
  simp [functionEvents, FunctionDecl.sites, h]

theorem origin?_of_none (h : t.scope? f = none) : t.origin? f = none := by
  simp [origin?, h]

theorem origin?_of_some (h : t.scope? f = some scope) :
    t.origin? f = scope.origin? (f.sites scope.errorIndex) := by
  simp [origin?, h]

end SourceTree

namespace Findings

-- No rule of an audit counts anything: findings that come from trees have both counters at zero.
def ofOrigins (origins : List Origin) : Findings :=
  { empty with origins }

def extend (a : Findings) (origins : List Origin) : Findings :=
  { a with origins := a.origins ++ origins }

@[simp]
theorem extend_nil (a : Findings) : a.extend [] = a := by
  simp [extend]

@[simp]
theorem extend_extend (a : Findings) (origins origins' : List Origin) :
    (a.extend origins).extend origins' = a.extend (origins ++ origins') := by
  simp [extend]

end Findings

namespace Collector

theorem steps_cons (c : Collector) (event : Event) (events : List Event) :
    c.steps (event :: events) = (c.step event).steps events :=
  List.foldl_cons ..

theorem steps_append (c : Collector) (events events' : List Event) :
    c.steps (events ++ events') = (c.steps events).steps events' :=
  List.foldl_append

theorem steps_sites (c : Collector) (scope : Scope) (sites : List ReturnSite) :
    c.steps (sites.map (.site scope)) = { c with pending := c.pending ++ descriptors sites } := by
  induction sites generalizing c
  case nil => simp [steps, descriptors]
  case cons site sites hi =>
    rw [List.map_cons, steps_cons, hi]
    by_cases h : site.hasDescriptor <;> simp [step, descriptors, h]

-- A block of events from entering to leaving. What was pending before makes no difference.
theorem steps_block (c : Collector) (scope : Scope) (sites : List ReturnSite) :
    c.steps (.enter scope :: sites.map (.site scope) ++ [.leave scope]) =
      ofFindings (c.findings.extend (scope.origin? sites).toList) := by
  have he : c.steps (.enter scope :: sites.map (.site scope)) = { c with pending := descriptors sites } := by
    rw [steps_cons, steps_sites]
    simp [step]
  rw [steps_append, he]
  cases h : (descriptors sites).isEmpty <;>
    simp_all [steps, step, ofFindings, Scope.origin?, Findings.extend]

theorem steps_functionEvents (c : Collector) (t : SourceTree) (f : FunctionDecl) :
    (c.steps (t.functionEvents f)).findings = c.findings.extend (t.origin? f).toList := by
  cases h : t.scope? f
  case none =>
    rw [SourceTree.functionEvents_of_none h, SourceTree.origin?_of_none h]
    simp [steps]
  case some scope =>
    rw [SourceTree.functionEvents_of_some h, SourceTree.origin?_of_some h, steps_block]
    rfl

theorem addTree_findings (c : Collector) (t : SourceTree) :
    (c.addTree t).findings = c.findings.extend t.origins := by
  suffices h : ∀ functions : List FunctionDecl, ∀ c : Collector,
      (c.steps (functions.flatMap t.functionEvents)).findings =
        c.findings.extend (functions.filterMap t.origin?) from h t.functions c
  -- The collector changes from function to function, so it is not fixed before the induction.
  intro functions
  induction functions <;> intro c
  case nil => simp [steps]
  case cons f functions hi =>
    rw [List.flatMap_cons, steps_append, hi, steps_functionEvents]
    cases h : t.origin? f <;> simp [h]

theorem addTrees_findings (c : Collector) (trees : List SourceTree) :
    (trees.foldl addTree c).findings = c.findings.extend (trees.flatMap (·.origins)) := by
  induction trees generalizing c
  case nil => simp
  case cons t trees hi =>
    rw [List.foldl_cons, hi, addTree_findings]
    simp

end Collector

theorem collect_eq (trees : List SourceTree) :
    collect trees = Findings.ofOrigins (trees.flatMap (·.origins)) := by
  rw [collect, Collector.addTrees_findings]
  rfl

-- The origins of some declarations of a file, in their order: one for each function that returns an error and
-- has a body in which some error can be described.
inductive Recorded (path : Option String) : List Decl → List Origin → Prop
  | nil :
    Recorded path [] []
  | origin {f : FunctionDecl} {index : Nat} {body : List Node} {decls : List Decl} {origins : List Origin}
      (he : f.errorIndex = some index) (hb : f.body = some body)
      (hd : descriptors (returnSites index body) ≠ []) (hr : Recorded path decls origins) :
    Recorded path (.function f :: decls)
      ({ function    := f.name
         location    := { file := path, position := f.position }
         descriptors := descriptors (returnSites index body) } :: origins)
  | nothing {d : Decl} {decls : List Decl} {origins : List Origin}
      (hn : ∀ f index body, d = .function f → f.errorIndex = some index → f.body = some body →
        descriptors (returnSites index body) = [])
      (hr : Recorded path decls origins) :
    Recorded path (d :: decls) origins

namespace SourceTree

variable {t : SourceTree} {f : FunctionDecl}

theorem scope?_eq_some_iff {scope : Scope} :
    t.scope? f = some scope ↔ ∃ index, f.errorIndex = some index ∧
      { path := t.path, function := f, errorIndex := index } = scope := by
  rw [scope?, Option.map_eq_some_iff]

theorem origin?_eq_some {o : Origin} (h : t.origin? f = some o) :
    ∃ index body, f.errorIndex = some index ∧ f.body = some body ∧
      descriptors (returnSites index body) ≠ [] ∧
      o = { function := f.name, location := t.locate f.position,
            descriptors := descriptors (returnSites index body) } := by
  obtain ⟨scope, hs, ho⟩ := Option.bind_eq_some_iff.mp h
  obtain ⟨index, he, rfl⟩ := scope?_eq_some_iff.mp hs
  simp only [Scope.origin?, List.isEmpty_iff, Option.ite_none_left_eq_some, Option.some.injEq] at ho
  obtain ⟨hd, rfl⟩ := ho
  cases hb : f.body
  case none      => exact absurd (congrArg descriptors (f.sites_of_no_body hb index)) hd
  case some body =>
    rw [f.sites_of_body hb] at hd ⊢
    exact ⟨index, body, he, rfl, hd, rfl⟩

theorem origin?_eq_none {index : Nat} {body : List Node} (h : t.origin? f = none)
    (he : f.errorIndex = some index) (hb : f.body = some body) :
    descriptors (returnSites index body) = [] := by
  rw [origin?_of_some (scope?_eq_some_iff.mpr ⟨index, he, rfl⟩)] at h
  simpa [Scope.origin?, f.sites_of_body hb] using h

theorem recorded_origins (t : SourceTree) : Recorded t.path t.decls t.origins := by
  rw [origins, functions]
  induction t.decls
  case nil => exact .nil
  case cons d decls hi =>
    cases d
    case other => exact .nothing (by simp) hi
    case function f =>
      cases ho : t.origin? f
      case none =>
        simp only [List.filterMap_cons, ho]
        refine .nothing (fun g index body hg he hb => ?_) hi
        cases hg
        exact origin?_eq_none ho he hb
      case some o =>
        obtain ⟨index, body, he, hb, hd, rfl⟩ := origin?_eq_some ho
        simp only [List.filterMap_cons, ho]
        exact .origin he hb hd hi

end SourceTree

-- Whatever a collector has pending, a tree adds origins that depend on the tree alone, and counts nothing.
theorem addTree_appends :
    (∀ t : SourceTree, Recorded t.path t.decls t.origins) ∧
    (∀ (c : Collector) (t : SourceTree),
      (c.addTree t).findings = { c.findings with origins := c.findings.origins ++ t.origins }) ∧
    ∀ trees : List SourceTree,
      collect trees = { origins := trees.flatMap (·.origins), wrappedCount := 0, constCount := 0 } :=
  ⟨SourceTree.recorded_origins, Collector.addTree_findings, collect_eq⟩

end ErrorOrigins
