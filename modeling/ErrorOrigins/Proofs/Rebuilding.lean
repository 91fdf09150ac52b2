import ErrorOrigins.Audit.Diagnostic
import ErrorOrigins.Proofs.Collecting
import ErrorOrigins.Proofs.ReturnSites
import Mathlib.Data.List.SplitBy

namespace ErrorOrigins

-- What stands between two texts, if the whole starts with the one and ends in the other.
def Text.between? (before after whole : String) : Option String := do
  let rest ← whole.toList.dropPrefix? before.toList
  let middle ← rest.dropSuffix? after.toList
  return String.ofList middle

theorem Text.between?_append (before middle after : String) :
    between? before after (before ++ middle ++ after) = some middle := by
  have hp : (before ++ middle ++ after).toList.dropPrefix? before.toList = some (middle ++ after).toList := by
    rw [List.dropPrefix?_eq_some_iff]
    exact ⟨before.toList, by simp, by simp⟩
  have hs : (middle ++ after).toList.dropSuffix? after.toList = some middle.toList := by
    rw [List.dropSuffix?_eq_some_iff]
    exact ⟨after.toList, by simp, by simp⟩
  rw [between?, hp, Option.bind_eq_bind, Option.bind_some, hs]
  simp

namespace Diagnostic

def startsGroup (d : Diagnostic) : Bool :=
  d.message.toList.head? == some ' '

def function? (d : Diagnostic) : Option String :=
  Text.between? " -- " "() ---" d.message

def descriptor? (d : Diagnostic) : Option String :=
  Text.between? "-- " " --" d.message

-- Each diagnostic that starts a group is the first of one.
def groups (ds : List Diagnostic) : List (List Diagnostic) :=
  ds.splitBy fun _ d => !d.startsGroup

end Diagnostic

-- A group tells of an origin if descriptors follow its header.
def Origin.ofGroup? : List Diagnostic → Option Origin
  | []             => none
  | header :: rest => do
    let function ← header.function?
    let descriptors := rest.filterMap Diagnostic.descriptor?
    if descriptors.isEmpty then none else some { function, location := header.location, descriptors }

def Origin.ofDiagnostics (ds : List Diagnostic) : List Origin :=
  (Diagnostic.groups ds).filterMap ofGroup?

namespace Diagnostic

variable {scope : Scope} {site : ReturnSite} {sites : List ReturnSite} {d : Diagnostic}

@[simp]
theorem header_startsGroup (scope : Scope) : (header scope).startsGroup := by
  simp [startsGroup, header]

@[simp]
theorem header_function? (scope : Scope) : (header scope).function? = some scope.function.name :=
  Text.between?_append ..

theorem ofSite?_startsGroup (h : ofSite? scope site = some d) : d.startsGroup = false := by
  simp [ofSite?] at h
  have ⟨_, _, _, hd⟩ := h
  simp [startsGroup, ← hd]

theorem ofSite?_descriptor? (h : ofSite? scope site = some d) : d.descriptor? = some site.descriptor := by
  simp [ofSite?] at h
  have ⟨_, _, _, hd⟩ := h
  exact hd ▸ Text.between?_append ..

-- The emitter looks at the kind, the collector at the descriptor. On sites of an audit both keep the same.
theorem ofSite?_isSome (scope : Scope) (h : site.Described) :
    (ofSite? scope site).isSome = site.hasDescriptor := by
  cases hk : site.hasDescriptor <;> simp [ReturnSite.hasDescriptor, ← h.kind_none_iff] at hk
  case false => simp [ofSite?, hk]
  case true  =>
    have ⟨p, hp⟩ := h.exprPosition_some hk
    simp [ofSite?, hk, hp]

theorem descriptors_of_sites (h : ∀ site ∈ sites, site.Described) :
    (sites.filterMap (ofSite? scope)).filterMap descriptor? = descriptors sites := by
  induction sites
  case nil => rfl
  case cons site sites hi =>
    have ⟨hs, hr⟩ := List.forall_mem_cons.mp h
    have he := ofSite?_isSome scope hs
    cases ho : ofSite? scope site <;> simp [ho] at he
    case none   => simp_all [descriptors]
    case some d => simp_all [descriptors, ofSite?_descriptor? ho]

-- Such a list can be put after any other, and the groups of both stay what they are.
def Headed (ds : List Diagnostic) : Prop :=
  ∀ d ∈ ds.head?, d.startsGroup

theorem headed_flatMap {α : Type} {blocks : α → List Diagnostic} (h : ∀ a, Headed (blocks a)) (as : List α) :
    Headed (as.flatMap blocks) := by
  induction as
  case nil => simp [Headed]
  case cons a as hi =>
    have ha := h a
    cases hb : blocks a
    case nil  => simpa [hb] using hi
    case cons => simpa [Headed, hb] using ha

theorem groups_append {ds ds' : List Diagnostic} (h : Headed ds') :
    groups (ds ++ ds') = groups ds ++ groups ds' := by
  refine List.splitBy_append fun _ _ d hd => ?_
  simp [h d hd]

theorem groups_cons (d : Diagnostic) {ds : List Diagnostic} (h : ∀ d' ∈ ds, d'.startsGroup = false) :
    groups (d :: ds) = [d :: ds] := by
  refine List.splitBy_of_isChain (by simp) (List.Pairwise.isChain ?_)
  refine List.pairwise_cons.mpr ⟨fun d' hd => ?_, List.pairwise_of_forall_mem_list fun _ _ d' hd => ?_⟩
  all_goals simp [h d' hd]

end Diagnostic

namespace Origin

open Diagnostic

theorem ofDiagnostics_flatMap {α : Type} {blocks : α → List Diagnostic} (h : ∀ a, Headed (blocks a))
    (as : List α) : ofDiagnostics (as.flatMap blocks) = as.flatMap fun a => ofDiagnostics (blocks a) := by
  induction as
  case nil => rfl
  case cons a as hi =>
    rw [List.flatMap_cons, ofDiagnostics, groups_append (headed_flatMap h as), List.filterMap_append]
    exact congrArg _ hi

theorem ofDiagnostics_block (scope : Scope) {sites : List ReturnSite} (h : ∀ site ∈ sites, site.Described) :
    ofDiagnostics (header scope :: sites.filterMap (ofSite? scope)) = (scope.origin? sites).toList := by
  have hg : ∀ d ∈ sites.filterMap (ofSite? scope), d.startsGroup = false := by
    intro d hd
    have ⟨_, _, hs⟩ := List.mem_filterMap.mp hd
    exact ofSite?_startsGroup hs
  have ho : ofGroup? (header scope :: sites.filterMap (ofSite? scope)) = scope.origin? sites := by
    simp only [ofGroup?, header_function?, descriptors_of_sites h, Option.bind_eq_bind, Option.bind_some]
    rfl
  rw [ofDiagnostics, groups_cons _ hg, List.filterMap_cons, ho]
  cases scope.origin? sites <;> rfl

end Origin

namespace SourceTree

open Diagnostic

variable {t : SourceTree} {f : FunctionDecl} {scope : Scope}

-- The diagnostics of one function.
def functionDiagnostics (t : SourceTree) (f : FunctionDecl) : List Diagnostic :=
  (t.functionEvents f).filterMap ofEvent?

theorem diagnostics_eq_flatMap (t : SourceTree) : t.diagnostics = t.functions.flatMap t.functionDiagnostics :=
  List.filterMap_flatMap ..

theorem functionDiagnostics_of_none (h : t.scope? f = none) : t.functionDiagnostics f = [] := by
  simp [functionDiagnostics, functionEvents_of_none h]

theorem functionDiagnostics_of_some (h : t.scope? f = some scope) :
    t.functionDiagnostics f = header scope :: (f.sites scope.errorIndex).filterMap (ofSite? scope) := by
  simp [functionDiagnostics, functionEvents_of_some h, ofEvent?, List.filterMap_map, Function.comp_def]

theorem functionDiagnostics_headed (t : SourceTree) (f : FunctionDecl) : Headed (t.functionDiagnostics f) := by
  cases h : t.scope? f
  case none       => simp [functionDiagnostics_of_none h, Headed]
  case some scope => simp [functionDiagnostics_of_some h, Headed]

theorem diagnostics_headed (t : SourceTree) : Headed t.diagnostics := by
  rw [diagnostics_eq_flatMap]
  exact headed_flatMap t.functionDiagnostics_headed t.functions

theorem ofDiagnostics_functionDiagnostics (t : SourceTree) (f : FunctionDecl) :
    Origin.ofDiagnostics (t.functionDiagnostics f) = (t.origin? f).toList := by
  cases h : t.scope? f
  case none       => rw [functionDiagnostics_of_none h, origin?_of_none h]; rfl
  case some scope =>
    rw [functionDiagnostics_of_some h, origin?_of_some h]
    exact Origin.ofDiagnostics_block scope fun _ => described_of_mem_returnSites

theorem ofDiagnostics_diagnostics (t : SourceTree) : Origin.ofDiagnostics t.diagnostics = t.origins := by
  rw [diagnostics_eq_flatMap, Origin.ofDiagnostics_flatMap t.functionDiagnostics_headed]
  simp only [ofDiagnostics_functionDiagnostics]
  rw [origins, List.filterMap_eq_flatMap_toList]

end SourceTree

-- For every list of trees the diagnostics hold all that the origins do.
theorem ofDiagnostics_eq_origins (trees : List SourceTree) :
    Origin.ofDiagnostics (diagnostics trees) = (collect trees).origins := by
  have h := Origin.ofDiagnostics_flatMap (·.diagnostics_headed) trees
  simp only [SourceTree.ofDiagnostics_diagnostics] at h
  rw [diagnostics, h, collect_eq]
  rfl

end ErrorOrigins
