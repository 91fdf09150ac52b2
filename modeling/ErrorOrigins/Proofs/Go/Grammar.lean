import ErrorOrigins.Go.Lowering
import Mathlib.Data.List.Basic
import Mathlib.Data.List.Find
import Mathlib.Tactic.MkIffOfInductiveProp

namespace ErrorOrigins.Go.Tree

variable {source : String} {t c : Tree}

theorem children_induction {P : Tree → Prop} (step : ∀ t, (∀ c ∈ t.children, P c) → P t) : ∀ t, P t
  | node kind role extent children => step _ fun c (hc : c ∈ children) =>
    have : sizeOf c < sizeOf (node kind role extent children) := by
      have := List.sizeOf_lt_of_mem hc
      simp only [node.sizeOf_spec]
      omega
    children_induction step c
termination_by t => sizeOf t

mutual

-- A node and all nodes below it in pre-order.
def subtrees : Tree → List Tree
  | node kind role extent children => node kind role extent children :: subtreesAmong children

def subtreesAmong : List Tree → List Tree
  | []      => []
  | t :: ts => subtrees t ++ subtreesAmong ts

end

theorem subtreesAmong_eq (ts : List Tree) : subtreesAmong ts = ts.flatMap subtrees := by
  induction ts
  case nil          => simp [subtreesAmong]
  case cons t ts hi => simp [subtreesAmong, hi]

theorem subtrees_eq (t : Tree) : t.subtrees = t :: t.children.flatMap subtrees := by
  cases t
  simp [subtrees, subtreesAmong_eq, children]

theorem self_mem_subtrees (t : Tree) : t ∈ t.subtrees := by
  rw [subtrees_eq]
  exact List.mem_cons_self

theorem mem_subtrees_of_child {n : Tree} (hc : c ∈ t.children) (hn : n ∈ c.subtrees) :
    n ∈ t.subtrees := by
  rw [subtrees_eq]
  exact List.mem_cons_of_mem _ <| List.mem_flatMap.mpr ⟨c, hc, hn⟩

theorem subtrees_trans {n : Tree} (hc : c ∈ t.subtrees) (hn : n ∈ c.subtrees) : n ∈ t.subtrees := by
  induction t using children_induction
  case step t hi =>
    rw [subtrees_eq, List.mem_cons, List.mem_flatMap] at hc
    cases hc
    case inl hc => exact hc ▸ hn
    case inr hc =>
      have ⟨b, hb, hc⟩ := hc
      exact mem_subtrees_of_child hb (hi b hb hc)

theorem mem_children_of_mem_parts (h : c ∈ t.parts) : c ∈ t.children :=
  (List.mem_filter.mp h).left

theorem mem_children_of_part? {role : String} (h : t.part? role = some c) : c ∈ t.children :=
  List.mem_of_find?_eq_some h

def partRoles (t : Tree) : List (Option String) :=
  t.parts.map (·.role)

def partKinds (t : Tree) : List String :=
  t.parts.map (·.kind)

def functionKinds : List String :=
  ["function_declaration", "method_declaration"]

def nameKinds : List String :=
  ["identifier", "nil", "true", "false", "iota"]

def literalKinds : List String :=
  ["int_literal", "float_literal", "imaginary_literal", "rune_literal", "interpreted_string_literal",
    "raw_string_literal"]

-- What string literals are made of.
def pieceKinds : List String :=
  ["raw_string_literal_content", "interpreted_string_literal_content", "escape_sequence"]

def tokenKinds : List String :=
  ["comment", "field_identifier"] ++ nameKinds ++ pieceKinds

-- What the grammar says of a node and its parts, as far as lowering has to do with it. Comments may stand
-- between any two parts.
@[mk_iff]
structure Formed (t : Tree) : Prop where
  comment   : ∀ c ∈ t.children, c.isComment → c.role = none
  token     : t.kind ∈ tokenKinds → t.children = []
  literal   : t.kind ∈ literalKinds → ∀ c ∈ t.parts, c.kind ∈ pieceKinds
  return_   : t.kind = "return_statement" → t.partKinds = [] ∨ t.partKinds = ["expression_list"]
  call      : t.kind = "call_expression" →
    t.partRoles = [some "function", some "arguments"] ∨
    t.partRoles = [some "function", some "type_arguments", some "arguments"]
  arguments : t.kind = "call_expression" →
    ∀ c ∈ t.parts, c.role = some "arguments" → c.kind = "argument_list"
  selector  : t.kind = "selector_expression" → t.partRoles = [some "operand", some "field"]
  field     : t.kind = "selector_expression" →
    ∀ c ∈ t.parts, c.role = some "field" → c.kind = "field_identifier"
  body      : t.kind ∈ functionKinds → ∀ c ∈ t.children, c.role = some "body" → c.kind = "block"
  topLevel  : ∀ c ∈ t.children, c.kind ≠ "source_file" ∧ (c.kind ∈ functionKinds → t.kind = "source_file")

def WellFormed (t : Tree) : Prop :=
  ∀ n ∈ t.subtrees, n.Formed

-- A tree of a whole file without errors.
@[mk_iff]
structure Grammatical (t : Tree) : Prop where
  root       : t.kind = "source_file"
  wellFormed : t.WellFormed

instance (t : Tree) : Decidable t.Formed :=
  decidable_of_iff' _ (formed_iff t)

instance (t : Tree) : Decidable t.WellFormed :=
  inferInstanceAs (Decidable (∀ n ∈ t.subtrees, n.Formed))

instance (t : Tree) : Decidable t.Grammatical :=
  decidable_of_iff' _ (grammatical_iff t)

namespace Formed

-- Comments play no role.
theorem part?_eq (h : t.Formed) (role : String) : t.part? role = t.parts.find? (·.role == some role) := by
  rw [parts, List.find?_filter, part?]
  refine List.find?_congr fun c hc => ?_
  rw [Bool.eq_iff_iff]
  cases hm : c.isComment
  case false => simp
  case true  => simp [h.comment c hc hm]

-- A function and arguments, and maybe type arguments between them.
theorem call_parts (h : t.Formed) (hk : t.kind = "call_expression") :
    ∃ function arguments, t.part? "function" = some function ∧ t.part? "arguments" = some arguments ∧
      arguments.kind = "argument_list" ∧
      t.parts.filter (·.role != some "type_arguments") = [function, arguments] := by
  have ha := h.arguments hk
  have hr := h.call hk
  simp only [partRoles, List.map_eq_cons_iff, List.map_eq_nil_iff] at hr
  cases hr
  case inl hr =>
    have ⟨function, _, hp, hf, arguments, _, hq, hg, hn⟩ := hr
    subst hn hq
    refine ⟨function, arguments, ?_, ?_, ha arguments (by simp [hp]) hg, ?_⟩
    all_goals simp [h.part?_eq, hp, hf, hg]
  case inr hr =>
    have ⟨function, _, hp, hf, types, _, hq, ht, arguments, _, hs, hg, hn⟩ := hr
    subst hn hs hq
    refine ⟨function, arguments, ?_, ?_, ha arguments (by simp [hp]) hg, ?_⟩
    all_goals simp [h.part?_eq, hp, hf, ht, hg]

theorem selector_parts (h : t.Formed) (hk : t.kind = "selector_expression") :
    ∃ operand field, t.part? "operand" = some operand ∧ t.part? "field" = some field ∧
      field.kind = "field_identifier" ∧ t.parts = [operand, field] := by
  have hr := h.selector hk
  simp only [partRoles, List.map_eq_cons_iff, List.map_eq_nil_iff] at hr
  have ⟨operand, _, hp, ho, field, _, hq, hf, hn⟩ := hr
  subst hn hq
  refine ⟨operand, field, ?_, ?_, h.field hk field (by simp [hp]) hf, hp⟩
  all_goals simp [h.part?_eq, hp, ho, hf]

theorem return_parts (h : t.Formed) (hk : t.kind = "return_statement") :
    t.parts = [] ∨ ∃ list, list.kind = "expression_list" ∧ t.parts = [list] := by
  have hr := h.return_ hk
  simp only [partKinds, List.map_eq_cons_iff, List.map_eq_nil_iff] at hr
  cases hr
  case inl hr => exact .inl hr
  case inr hr =>
    have ⟨list, _, hp, hl, hn⟩ := hr
    exact .inr ⟨list, hl, hn ▸ hp⟩

theorem body_kind (h : t.Formed) (hf : t.kind ∈ functionKinds) (hb : t.part? "body" = some c) :
    c.kind = "block" := by
  have hr : c.role = some "body" := by simpa using List.find?_some hb
  exact h.body hf c (mem_children_of_part? hb) hr

theorem parts_eq_nil (h : t.Formed) (hk : t.kind ∈ tokenKinds) : t.parts = [] := by
  simp [parts, h.token hk]

end Formed

namespace WellFormed

theorem self (h : t.WellFormed) : t.Formed :=
  h t t.self_mem_subtrees

theorem below (h : t.WellFormed) (hc : c ∈ t.subtrees) : c.WellFormed :=
  fun n hn => h n (subtrees_trans hc hn)

theorem child (h : t.WellFormed) (hc : c ∈ t.children) : c.WellFormed :=
  fun n hn => h n (mem_subtrees_of_child hc hn)

theorem part (h : t.WellFormed) {role : String} (hc : t.part? role = some c) : c.WellFormed :=
  h.child (mem_children_of_part? hc)

end WellFormed

theorem isFunction_eq (t : Tree) : t.isFunction = decide (t.kind ∈ functionKinds) := by
  rw [Bool.eq_iff_iff]
  simp [isFunction, functionKinds]

-- All functions of a tree, wherever they stand.
def functions (t : Tree) : List Tree :=
  t.subtrees.filter (·.kind ∈ functionKinds)

theorem functions_eq (t : Tree) :
    t.functions = [t].filter (·.kind ∈ functionKinds) ++ t.children.flatMap functions := by
  rw [functions, subtrees_eq, ← List.singleton_append, List.filter_append, List.filter_flatMap]
  rfl

-- Below the root there is no place for a function: those within functions are literals.
theorem WellFormed.functions_eq (h : t.WellFormed) (hk : t.kind ≠ "source_file") :
    t.functions = [t].filter (·.kind ∈ functionKinds) := by
  induction t using children_induction
  case step t hi =>
    -- By induction only the parts themselves could be functions, and functions stand in a file.
    have hc : ∀ c ∈ t.children, c.functions = [] := by
      intro c hc
      have ⟨hs, hf⟩ := h.self.topLevel c hc
      have hn : c.kind ∉ functionKinds := fun hd => hk (hf hd)
      rw [hi c hc (h.child hc) hs]
      simp [hn]
    rw [Tree.functions_eq, List.flatMap_eq_nil_iff.mpr hc, List.append_nil]

theorem Grammatical.functions_eq (h : t.Grammatical) : t.functions = t.parts.filter (·.isFunction) := by
  have ht : t.kind ∉ functionKinds := by simp [h.root, functionKinds]
  have hc : ∀ c ∈ t.children, c.functions = [c].filter (·.kind ∈ functionKinds) := by
    intro c hc
    have ⟨hk, _⟩ := h.wellFormed.self.topLevel c hc
    exact (h.wellFormed.child hc).functions_eq hk
  have hp : ∀ c : Tree, (decide (c.kind ∈ functionKinds) && !c.isComment) = decide (c.kind ∈ functionKinds) := by
    intro c
    by_cases hk : c.kind = "comment" <;> simp [functionKinds, isComment, hk]
  rw [Tree.functions_eq, List.flatMap_congr hc, ← List.filter_flatMap, List.flatMap_singleton', parts,
    List.filter_filter]
  simp [isFunction_eq, hp, ht]

-- The expressions that a return statement returns.
def expressions (t : Tree) : List Tree :=
  match t.parts.find? (·.kind == "expression_list") with
  | some list => list.parts
  | none      => []

def lowered (source : String) (t : Tree) : Lowered :=
  { part := t, node := t.toNode source }

theorem toLowered_eq (source : String) (ts : List Tree) :
    toLowered source ts = (ts.filter (!·.isComment)).map (lowered source) := by
  induction ts
  case nil          => simp [toLowered]
  case cons t ts hi => cases h : t.isComment <;> simp [toLowered, h, hi, lowered]

theorem toNode_eq (source : String) (t : Tree) :
    t.toNode source = assemble source t (t.parts.map (lowered source)) := by
  cases t
  rw [toNode, toLowered_eq]
  rfl

@[simp]
theorem nodes_lowered (source : String) (ts : List Tree) :
    Lowered.nodes (ts.map (lowered source)) = ts.map (·.toNode source) := by
  simp [Lowered.nodes, lowered]

theorem toNodes_eq (source : String) (t : Tree) : t.toNodes source = t.parts.map (·.toNode source) := by
  rw [toNodes, toLowered_eq, nodes_lowered]
  rfl

theorem isName_eq (kind : String) : isName kind = decide (kind ∈ nameKinds) := by
  simp [isName, nameKinds]

theorem literalKind?_eq_none_iff {kind : String} : literalKind? kind = none ↔ kind ∉ literalKinds := by
  unfold literalKind?
  split <;> simp_all [literalKinds]

-- The kinds of nodes that only their parts are kept of.
structure IsPlain (kind : String) : Prop where
  not_return   : kind ≠ "return_statement"
  not_call     : kind ≠ "call_expression"
  not_selector : kind ≠ "selector_expression"
  not_name     : kind ∉ nameKinds
  not_literal  : kind ∉ literalKinds

theorem isPlain_expression_list : IsPlain "expression_list" := by
  constructor <;> decide

theorem isPlain_argument_list : IsPlain "argument_list" := by
  constructor <;> decide

theorem isPlain_block : IsPlain "block" := by
  constructor <;> decide

theorem toNode_plain (h : IsPlain t.kind) :
    t.toNode source = .other t.position t.kind (t.parts.map (·.toNode source)) := by
  rw [toNode_eq, assemble]
  simp [h.not_return, h.not_call, h.not_selector, isName_eq, h.not_name,
    literalKind?_eq_none_iff.mpr h.not_literal]

theorem children_toNode_plain (source : String) (h : IsPlain t.kind) :
    (t.toNode source).children = t.parts.map (·.toNode source) := by
  rw [toNode_plain h, Node.children]

theorem toNode_name (h : t.kind ∈ nameKinds) : t.toNode source = .ident t.position (t.textIn source) := by
  have hr : t.kind ≠ "return_statement"    := fun hk => by simp [hk, nameKinds] at h
  have hc : t.kind ≠ "call_expression"     := fun hk => by simp [hk, nameKinds] at h
  have hs : t.kind ≠ "selector_expression" := fun hk => by simp [hk, nameKinds] at h
  rw [toNode_eq, assemble]
  simp [hr, hc, hs, isName_eq, h]

theorem not_mem_nameKinds : ∀ kind ∈ literalKinds, kind ∉ nameKinds := by
  decide

theorem toNode_literal (source : String) (h : t.kind ∈ literalKinds) :
    ∃ literal, literalKind? t.kind = some literal ∧
      t.toNode source = .literal t.position literal (t.textIn source) := by
  have hr : t.kind ≠ "return_statement"    := fun hk => by simp [hk, literalKinds] at h
  have hc : t.kind ≠ "call_expression"     := fun hk => by simp [hk, literalKinds] at h
  have hs : t.kind ≠ "selector_expression" := fun hk => by simp [hk, literalKinds] at h
  have hn := not_mem_nameKinds t.kind h
  cases hl : literalKind? t.kind
  case none         => exact absurd h (literalKind?_eq_none_iff.mp hl)
  case some literal =>
    refine ⟨literal, rfl, ?_⟩
    rw [toNode_eq, assemble]
    simp [hr, hc, hs, isName_eq, hn, hl]

theorem toNode_return (h : t.Formed) (hk : t.kind = "return_statement") :
    t.toNode source = .ret t.position (t.expressions.map (·.toNode source)) := by
  have he : returnResults (t.parts.map (lowered source)) = t.expressions.map (·.toNode source) := by
    cases h.return_parts hk
    case inl hp => simp [expressions, hp, returnResults, Lowered.nodes]
    case inr hl =>
      have ⟨list, hl, hp⟩ := hl
      have hc := children_toNode_plain source (t := list) (hl ▸ isPlain_expression_list)
      simp [expressions, hp, returnResults, lowered, hl, hc]
  rw [toNode_eq, assemble, he]
  simp [hk]

theorem find?_lowered (source : String) (ts : List Tree) (role : String) :
    Lowered.find? (ts.map (lowered source)) role = (ts.find? (·.role == some role)).map (lowered source) := by
  rw [Lowered.find?, List.find?_map]
  rfl

theorem toNode_call {function arguments : Tree} (h : t.Formed) (hk : t.kind = "call_expression")
    (hf : t.part? "function" = some function) (ha : t.part? "arguments" = some arguments)
    (hl : arguments.kind = "argument_list") :
    t.toNode source = .call t.position (function.toNode source) (arguments.parts.map (·.toNode source)) := by
  have hc := children_toNode_plain source (t := arguments) (hl ▸ isPlain_argument_list)
  rw [h.part?_eq] at hf ha
  rw [toNode_eq, assemble]
  simp [hk, callNode?, find?_lowered, hf, ha, lowered, hc]

theorem toNode_selector {operand field : Tree} (h : t.Formed) (hk : t.kind = "selector_expression")
    (ho : t.part? "operand" = some operand) (hf : t.part? "field" = some field) :
    t.toNode source = .selector t.position (operand.toNode source) (field.textIn source) := by
  rw [h.part?_eq] at ho hf
  rw [toNode_eq, assemble]
  simp [hk, selectorNode?, find?_lowered, ho, hf, lowered]

-- What lowering tells apart, and what it makes of each.
inductive LowersTo (source : String) (t : Tree) : Node → Prop
  | return_ (hk : t.kind = "return_statement") :
    LowersTo source t (.ret t.position (t.expressions.map (·.toNode source)))
  | call (function arguments : Tree) (hk : t.kind = "call_expression")
      (hf : t.part? "function" = some function) (ha : t.part? "arguments" = some arguments)
      (hl : arguments.kind = "argument_list")
      (hp : t.parts.filter (·.role != some "type_arguments") = [function, arguments]) :
    LowersTo source t (.call t.position (function.toNode source) (arguments.parts.map (·.toNode source)))
  | selector (operand field : Tree) (hk : t.kind = "selector_expression")
      (hf : t.part? "field" = some field) (hl : field.kind = "field_identifier")
      (hp : t.parts = [operand, field]) :
    LowersTo source t (.selector t.position (operand.toNode source) (field.textIn source))
  | name (hr : t.kind ≠ "return_statement") (hc : t.kind ≠ "call_expression")
      (hs : t.kind ≠ "selector_expression") (hn : t.kind ∈ nameKinds) (hl : t.kind ∉ literalKinds) :
    LowersTo source t (.ident t.position (t.textIn source))
  | literal (kind : LiteralKind) (hr : t.kind ≠ "return_statement") (hc : t.kind ≠ "call_expression")
      (hs : t.kind ≠ "selector_expression") (hn : t.kind ∉ nameKinds) (hl : t.kind ∈ literalKinds) :
    LowersTo source t (.literal t.position kind (t.textIn source))
  | plain (hp : IsPlain t.kind) :
    LowersTo source t (.other t.position t.kind (t.parts.map (·.toNode source)))

theorem Formed.lowersTo (h : t.Formed) (source : String) : LowersTo source t (t.toNode source) := by
  by_cases hr : t.kind = "return_statement"
  case pos => exact toNode_return h hr ▸ .return_ hr
  by_cases hc : t.kind = "call_expression"
  case pos =>
    have ⟨function, arguments, hf, ha, hl, hp⟩ := h.call_parts hc
    exact toNode_call h hc hf ha hl ▸ .call function arguments hc hf ha hl hp
  by_cases hs : t.kind = "selector_expression"
  case pos =>
    have ⟨operand, field, ho, hf, hl, hp⟩ := h.selector_parts hs
    exact toNode_selector h hs ho hf ▸ .selector operand field hs hf hl hp
  by_cases hl : t.kind ∈ literalKinds
  case pos =>
    have ⟨kind, _, hk⟩ := toNode_literal source hl
    exact hk ▸ .literal kind hr hc hs (not_mem_nameKinds _ hl) hl
  by_cases hn : t.kind ∈ nameKinds
  case pos => exact toNode_name hn ▸ .name hr hc hs hn hl
  case neg => exact toNode_plain ⟨hr, hc, hs, hn, hl⟩ ▸ .plain ⟨hr, hc, hs, hn, hl⟩

end ErrorOrigins.Go.Tree
