import ErrorOrigins.Proofs.Collecting
import ErrorOrigins.Proofs.ErrorIndex
import ErrorOrigins.Proofs.Go.Returns

namespace ErrorOrigins.Go.Tree

variable {source : String} {t c : Tree}

-- The types of the values that an entry of a result list declares: one for each name, or one if it has no
-- name. Variadic entries declare none.
def entryTypes (t : Tree) : List Tree :=
  if t.kind ≠ "parameter_declaration" then [] else
    match t.part? "type", t.partsAs "name" with
    | none, _           => []
    | some type, []     => [type]
    | some type, names  => names.map fun _ => type

def valueTypes (t : Tree) : List Tree :=
  if t.kind = "parameter_list" then t.parts.flatMap entryTypes else [t]

-- The types of the values that a function returns.
def resultTypes (t : Tree) : List Tree :=
  (t.part? "result").elim [] valueTypes

def isErrorType (source : String) (t : Tree) : Bool :=
  t.kind == "type_identifier" && t.textIn source == "error"

theorem isError_toTypeExpr (source : String) (t : Tree) :
    (t.toTypeExpr source).isError = t.isErrorType source := by
  cases h : t.kind == "type_identifier" <;> simp [toTypeExpr, TypeExpr.isError, isErrorType, h]
  case true => rw [Bool.eq_iff_iff]; simp

-- An entry without a type has neither a field nor values.
theorem valueTypes_toResultField? (source : String) (t : Tree) :
    (t.toResultField? source).toList.flatMap (·.valueTypes) = t.entryTypes.map (·.toTypeExpr source) := by
  by_cases hk : t.kind = "parameter_declaration"
  case neg => simp [toResultField?, entryTypes, hk]
  case pos =>
    cases ht : t.part? "type"
    case none => simp [toResultField?, entryTypes, hk, ht]
    case some type =>
      cases hn : t.partsAs "name" <;>
        simp [toResultField?, entryTypes, hk, ht, hn, ResultField.valueTypes, ResultField.arity,
          List.replicate_succ]

theorem valueTypes_toResultFields (source : String) (t : Tree) :
    (t.toResultFields source).flatMap (·.valueTypes) = t.valueTypes.map (·.toTypeExpr source) := by
  by_cases hk : t.kind = "parameter_list"
  case neg => simp [toResultFields, valueTypes, hk, ResultField.valueTypes, ResultField.arity]
  case pos =>
    simp only [toResultFields, valueTypes, hk, beq_self_eq_true, if_true, List.map_flatMap]
    rw [List.filterMap_eq_flatMap_toList, List.flatMap_assoc]
    exact List.flatMap_congr fun c _ => valueTypes_toResultField? source c

theorem errorIndex_toFunction (source : String) (t : Tree) :
    (t.toFunction source).errorIndex = t.resultTypes.findIdx? (·.isErrorType source) := by
  cases h : t.part? "result"
  case none =>
    have hd : declaredTypes (t.toFunction source).signature = [] := by simp [toFunction, h, declaredTypes]
    simp [FunctionDecl.errorIndex_eq_findIdx?, hd, resultTypes, h]
  case some result =>
    have hd : declaredTypes (t.toFunction source).signature = result.valueTypes.map (·.toTypeExpr source) := by
      rw [← valueTypes_toResultFields, toFunction, h]
      rfl
    rw [FunctionDecl.errorIndex_eq_findIdx?, hd, List.findIdx?_map, resultTypes, h]
    simp [Function.comp_def, isError_toTypeExpr]

-- The name under which a call of the expression is reported.
def calleeText? (source : String) (t : Tree) : Option String :=
  if t.kind = "selector_expression" then (t.part? "field").map (·.textIn source)
  else if t.kind ∈ nameKinds then some (t.textIn source)
  else none

-- The texts of the literals in a list of arguments.
def literalTexts (source : String) (ts : List Tree) : List String :=
  (ts.filter (·.kind ∈ literalKinds)).map (·.textIn source)

def callText? (source : String) (t : Tree) : Option String := do
  let name ← (← t.part? "function").calleeText? source
  let arguments ← t.part? "arguments"
  return name ++ "(" ++ String.join ((literalTexts source arguments.parts).map (· ++ ",")) ++ ")"

-- How an expression is described. What is no call and no selector has no description.
def descriptor (source : String) (t : Tree) : String :=
  if t.kind = "call_expression" then (t.callText? source).getD ""
  else if t.kind = "selector_expression" then ((t.part? "field").map (·.textIn source ++ "()")).getD ""
  else ""

theorem position_toNode (source : String) (h : t.Formed) : (t.toNode source).position = t.position := by
  have hn := h.lowersTo source
  generalize t.toNode source = n at hn ⊢
  cases hn <;> rfl

theorem calleeName?_toNode (source : String) (h : t.Formed) :
    (t.toNode source).calleeName? = t.calleeText? source := by
  have hn := h.lowersTo source
  generalize t.toNode source = n at hn ⊢
  cases hn
  case return_ hk         => simp [Node.calleeName?, calleeText?, hk, nameKinds]
  case call hk _ _ _ _    => simp [Node.calleeName?, calleeText?, hk, nameKinds]
  case selector hk hf _ _ => simp [Node.calleeName?, calleeText?, hk, hf]
  case name hs hn _       => simp [Node.calleeName?, calleeText?, hs, hn]
  case literal hs hn _    => simp [Node.calleeName?, calleeText?, hs, hn]
  case plain hp           => simp [Node.calleeName?, calleeText?, hp.not_selector, hp.not_name]

-- Whether an argument shows in a descriptor depends on the argument alone.
theorem literalArguments_cons (n : Node) (ns : List Node) :
    literalArguments (n :: ns) = literalArguments [n] ++ literalArguments ns := by
  cases n <;> simp [literalArguments]

theorem literalArguments_toNode (source : String) (h : t.Formed) :
    literalArguments [t.toNode source] = String.join ((literalTexts source [t]).map (· ++ ",")) := by
  have hn := h.lowersTo source
  generalize t.toNode source = n at hn ⊢
  cases hn
  case return_ hk        => simp [literalArguments, literalTexts, hk, literalKinds]
  case call hk _ _ _ _   => simp [literalArguments, literalTexts, hk, literalKinds]
  case selector hk _ _ _ => simp [literalArguments, literalTexts, hk, literalKinds]
  case name hl           => simp [literalArguments, literalTexts, hl]
  case literal hl        => simp [literalArguments, literalTexts, hl]
  case plain hp          => simp [literalArguments, literalTexts, hp.not_literal]

theorem literalArguments_map_toNode (source : String) {ts : List Tree} (h : ∀ t ∈ ts, t.Formed) :
    literalArguments (ts.map (·.toNode source)) = String.join ((literalTexts source ts).map (· ++ ",")) := by
  induction ts
  case nil => simp [literalArguments, literalTexts]
  case cons t ts hi =>
    obtain ⟨ht, hs⟩ := List.forall_mem_cons.mp h
    have hl : literalTexts source (t :: ts) = literalTexts source [t] ++ literalTexts source ts := by
      simp [literalTexts, ← List.map_append, ← List.filter_append]
    rw [List.map_cons, literalArguments_cons, literalArguments_toNode source ht, hi hs, hl]
    simp

theorem descriptor_toNode (source : String) (h : t.WellFormed) :
    (Classification.ofNode (t.toNode source)).descriptor = t.descriptor source := by
  have hn := h.self.lowersTo source
  generalize t.toNode source = n at hn ⊢
  cases hn
  case return_ hk => simp [Classification.ofNode, Classification.unknown, descriptor, hk]
  case call function arguments hk hf ha _ _ =>
    have hc : function.Formed := (h.part hf).self
    have hs : ∀ c ∈ arguments.parts, c.Formed := fun c hc =>
      ((h.part ha).child (mem_children_of_mem_parts hc)).self
    rw [Classification.ofNode, calleeName?_toNode source hc]
    -- A call of what has no name is not described, whatever its arguments.
    cases hn : function.calleeText? source
    case none => simp [Classification.unknown, descriptor, callText?, hk, hf, hn]
    case some name => simp [literalArguments_map_toNode source hs, descriptor, callText?, hk, hf, ha, hn]
  case selector hk hf _ _ => simp [Classification.ofNode, descriptor, hk, hf]
  case name hc hs _ _ => simp [Classification.ofNode, Classification.unknown, descriptor, hc, hs]
  case literal hc hs _ _ => simp [Classification.ofNode, Classification.unknown, descriptor, hc, hs]
  case plain hp =>
    simp [Classification.ofNode, Classification.unknown, descriptor, hp.not_call, hp.not_selector]

-- Each of them is a return statement of the tree.
theorem mem_keptReturns {r : Tree} (h : r ∈ t.keptReturns) :
    r ∈ t.subtrees ∧ r.kind = "return_statement" := by
  induction t using children_induction
  case step t hi =>
    rw [keptReturns_eq, List.mem_append, List.mem_flatMap] at h
    cases h
    case inl h =>
      obtain ⟨ht, hk⟩ := List.mem_filter.mp h
      rw [List.mem_singleton.mp ht] at hk ⊢
      exact ⟨t.self_mem_subtrees, by simpa using hk⟩
    case inr h =>
      obtain ⟨c, hc, hr⟩ := h
      have hc := (List.mem_filter.mp hc).left
      obtain ⟨hs, hk⟩ := hi c hc hr
      exact ⟨mem_subtrees_of_child hc hs, hk⟩

theorem mem_subtrees_of_mem_expressions {e : Tree} (h : e ∈ t.expressions) : e ∈ t.subtrees := by
  unfold expressions at h
  split at h
  case h_1 list hl =>
    have hl := mem_children_of_mem_parts (List.mem_of_find?_eq_some hl)
    exact mem_subtrees_of_child hl <| mem_subtrees_of_child (mem_children_of_mem_parts h) e.self_mem_subtrees
  case h_2 => simp at h

-- Where a tree starts, counted from one. The numbers of a position have 32 bits, and are exact if these are enough.
structure StartsAt (t : Tree) (p : Position) : Prop where
  position_eq : p = { line := .ofNat (t.extent.row + 1), column := .ofNat (t.extent.column + 1) }
  line_eq     : t.extent.row + 1 < UInt32.size → p.line.toNat = t.extent.row + 1
  column_eq   : t.extent.column + 1 < UInt32.size → p.column.toNat = t.extent.column + 1

theorem startsAt_position (t : Tree) : t.StartsAt t.position where
  position_eq := rfl
  line_eq     := UInt32.toNat_ofNat_of_lt'
  column_eq   := UInt32.toNat_ofNat_of_lt'

-- What a site tells of a return statement: where it starts, where the expression in the place of the error starts,
-- and how that is described.
structure Reports (source : String) (index : Nat) (r : Tree) (site : ReturnSite) : Prop where
  position : r.StartsAt site.position
  present  : ∀ e, r.expressions[index]? = some e →
    (∃ p, site.exprPosition = some p ∧ e.StartsAt p) ∧ site.descriptor = e.descriptor source
  absent   : r.expressions.length ≤ index → site.exprPosition = none ∧ site.descriptor = ""

theorem ofNode?_toNode (source : String) (index : Nat) (h : t.WellFormed)
    (hk : t.kind = "return_statement") :
    ∃ site, ReturnSite.ofNode? index (t.toNode source) = some site ∧ t.Reports source index site := by
  have ho := ReturnSite.ofResults_isOf index t.position (t.expressions.map (·.toNode source))
  rw [toNode_return h.self hk]
  refine ⟨_, rfl, ?position, ?present, ?absent⟩
  case position =>
    rw [ho.position_eq]
    exact t.startsAt_position
  case present =>
    intro e he
    have hf := h.below (mem_subtrees_of_mem_expressions (List.mem_of_getElem? he))
    obtain ⟨hl, he⟩ := List.getElem?_eq_some_iff.mp he
    obtain ⟨hp, hd⟩ := ho.present (by simpa using hl)
    simp only [List.getElem_map, he, position_toNode source hf.self] at hp
    simp only [List.getElem_map, he, descriptor_toNode source hf, Prod.mk.injEq] at hd
    exact ⟨⟨e.position, hp, e.startsAt_position⟩, hd.right⟩
  case absent =>
    intro hl
    obtain ⟨hp, _, hd⟩ := ho.absent (by simpa using hl)
    exact ⟨hp, hd⟩

theorem returnSites_toNodes (source : String) (index : Nat) (h : t.WellFormed) (hk : IsPlain t.kind) :
    List.Forall₂ (Reports source index) t.keptReturns (returnSites index (t.toNodes source)) := by
  rw [returnSites_eq_returns, returns_toNodes source h hk]
  have hr : ∀ r ∈ t.keptReturns, ∃ site,
      ReturnSite.ofNode? index (r.toNode source) = some site ∧ r.Reports source index site := by
    intro r hr
    obtain ⟨hs, hr⟩ := mem_keptReturns hr
    exact ofNode?_toNode source index (h.below hs) hr
  -- From here on the tree does not matter, only that each of these statements has a site.
  revert hr
  generalize t.keptReturns = rs
  intro hr
  induction rs
  case nil => exact .nil
  case cons r rs hi =>
    obtain ⟨⟨site, hs, hp⟩, hr⟩ := List.forall_mem_cons.mp hr
    rw [List.map_cons, List.filterMap_cons, hs]
    exact .cons hp (hi hr)

-- The return statements that are kept of a function. It may have no body.
def bodyReturns (t : Tree) : List Tree :=
  (t.part? "body").elim [] keptReturns

theorem sites_toFunction (source : String) (index : Nat) (h : t.WellFormed) (hf : t.kind ∈ functionKinds) :
    List.Forall₂ (Reports source index) t.bodyReturns ((t.toFunction source).sites index) := by
  cases hb : t.part? "body"
  case none => simp [bodyReturns, toFunction, FunctionDecl.sites, hb, returnSites, Node.preorder]
  case some body =>
    have hk := h.self.body_kind hf hb
    have hs := returnSites_toNodes source index (h.part hb) (hk ▸ isPlain_block)
    simpa [bodyReturns, toFunction, FunctionDecl.sites, hb] using hs

-- The scope of a function in a file, with the name that it has in the text.
structure IsScopeOf (source : String) (path : Option String) (t : Tree) (scope : Scope) : Prop where
  path     : scope.path = path
  function : scope.function = t.toFunction source
  name     : scope.function.name = ((t.part? "name").map (·.textIn source)).getD ""
  position : t.StartsAt scope.function.position

-- What an audit tells of a function: it passes over one that declares no error, and enters one that does with
-- the place of its first error.
structure Audited (source : String) (path : Option String) (t : Tree) (block : List Event) : Prop where
  entered : ∀ index, t.resultTypes.findIdx? (·.isErrorType source) = some index → ∃ scope sites,
    t.IsScopeOf source path scope ∧ scope.errorIndex = index ∧
    block = .enter scope :: sites.map (.site scope) ++ [.leave scope] ∧
    List.Forall₂ (Reports source index) t.bodyReturns sites
  passed  : t.resultTypes.findIdx? (·.isErrorType source) = none → block = []

theorem functionEvents_audited (tree : SourceTree) (source : String) (h : t.WellFormed)
    (hf : t.kind ∈ functionKinds) : t.Audited source tree.path (tree.functionEvents (t.toFunction source)) where
  entered index hi := by
    rw [← errorIndex_toFunction] at hi
    have hs := SourceTree.scope?_eq_some_iff (t := tree).mpr ⟨index, hi, rfl⟩
    exact ⟨_, _, ⟨rfl, rfl, rfl, t.startsAt_position⟩, rfl, SourceTree.functionEvents_of_some hs,
      sites_toFunction source index h hf⟩
  passed hi := by
    rw [← errorIndex_toFunction] at hi
    exact SourceTree.functionEvents_of_none (by simp [SourceTree.scope?, hi])

-- Package clauses are taken out first, but none of them is a function.
theorem functions_toSourceTree (source : String) (path : Option String) (t : Tree) :
    (t.toSourceTree source path).functions = (t.parts.filter (·.isFunction)).map (·.toFunction source) := by
  simp only [toSourceTree, SourceTree.functions]
  induction t.parts
  case nil => rfl
  case cons c cs hi =>
    cases hf : c.isFunction
    case true =>
      have hp : c.isPackageClause = false := by
        by_cases hk : c.kind = "package_clause" <;> simp_all [isFunction, isPackageClause]
      have hd : c.toDecl source = .function (c.toFunction source) := by simp [toDecl, hf]
      simpa [hp, hf, hd] using hi
    case false =>
      have hd : c.toDecl source = .other c.kind c.position := by simp [toDecl, hf]
      cases hp : c.isPackageClause <;> simpa [hp, hf, hd] using hi

namespace Grouped

def text : String :=
  "func F() (n, m int, err error) \x7b return 1, 2, errs.New(\"x\", n, 3) \x7d"

-- The text is one line, so columns are offsets.
def piece (kind : String) (role : Option String) (first stop : Nat) (children : List Tree) : Tree :=
  node kind role { row := 0, column := first, first, stop } children

def result : Tree :=
  piece "parameter_list" (some "result") 9 30 [
    piece "parameter_declaration" none 10 18 [
      piece "identifier" (some "name") 10 11 [],
      piece "identifier" (some "name") 13 14 [],
      piece "type_identifier" (some "type") 15 18 []],
    piece "parameter_declaration" none 20 29 [
      piece "identifier" (some "name") 20 23 [],
      piece "type_identifier" (some "type") 24 29 []]]

def call : Tree :=
  piece "call_expression" none 46 65 [
    piece "selector_expression" (some "function") 46 54 [
      piece "identifier" (some "operand") 46 50 [],
      piece "field_identifier" (some "field") 51 54 []],
    piece "argument_list" (some "arguments") 54 65 [
      piece "interpreted_string_literal" none 55 58 [],
      piece "identifier" none 60 61 [],
      piece "int_literal" none 63 64 []]]

def function : Tree :=
  piece "function_declaration" none 0 67 [
    piece "identifier" (some "name") 5 6 [],
    piece "parameter_list" (some "parameters") 6 8 [],
    result,
    piece "block" (some "body") 31 67 [
      piece "return_statement" none 33 65 [
        piece "expression_list" none 40 65 [
          piece "int_literal" none 40 41 [],
          piece "int_literal" none 43 44 [],
          call]]]]

def file : Tree :=
  piece "source_file" none 0 67 [function]

end Grouped

-- An audit of a file tells of its functions one by one, each with the kept return statements of its body and
-- the expressions that these have in the place of the error.
theorem events_toSourceTree (source : String) (path : Option String) (h : t.Grammatical) :
    ∃ blocks : List (List Event), (t.toSourceTree source path).events = blocks.flatten ∧
      List.Forall₂ (Audited source path) t.functions blocks := by
  let tree := t.toSourceTree source path
  refine ⟨t.functions.map fun f => tree.functionEvents (f.toFunction source), ?events, ?audited⟩
  case events =>
    rw [SourceTree.events, functions_toSourceTree, ← h.functions_eq, List.flatMap_map]
    rfl
  case audited =>
    rw [List.forall₂_map_right_iff, List.forall₂_same]
    intro f hf
    obtain ⟨hs, hk⟩ := List.mem_filter.mp hf
    exact functionEvents_audited tree source (h.wellFormed.below hs) (by simpa using hk)

-- Two names of one entry come before the error, and one return has a call in its place.
theorem events_grouped :
    Grouped.file.Grammatical ∧
    Grouped.file.functions = [Grouped.function] ∧
    Grouped.function.resultTypes.findIdx? (·.isErrorType Grouped.text) = some 2 ∧
    (Grouped.function.bodyReturns.map fun r => r.expressions[2]?) = [some Grouped.call] ∧
    Grouped.call.descriptor Grouped.text = "New(\"x\",3,)" ∧
    ∃ blocks : List (List Event), (Grouped.file.toSourceTree Grouped.text none).events = blocks.flatten ∧
      List.Forall₂ (Audited Grouped.text none) Grouped.file.functions blocks :=
  ⟨by decide, rfl, by decide, rfl, by decide, events_toSourceTree Grouped.text none (by decide)⟩

end ErrorOrigins.Go.Tree
