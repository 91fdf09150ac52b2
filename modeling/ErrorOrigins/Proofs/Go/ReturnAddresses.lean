import ErrorOrigins.Proofs.Go.ErrorPosition

namespace ErrorOrigins.Go.Tree

variable {source : String} {t c n : Tree} {a : Address} {i : Nat}

-- The node that an address leads to. Comments have places among the parts too.
def at? (t : Tree) : Address → Option Tree
  | []     => some t
  | i :: a => t.children[i]?.bind fun c => c.at? a

theorem at?_cons_eq_some_iff : t.at? (i :: a) = some n ↔ ∃ c, t.children[i]? = some c ∧ c.at? a = some n := by
  rw [at?, Option.bind_eq_some_iff]

theorem at?_cons (h : t.children[i]? = some c) (a : Address) : t.at? (i :: a) = c.at? a := by
  rw [at?, h, Option.bind_some]

-- Somewhere on its way down the address leads from a call into the type arguments of the call.
def InTypeArguments (t : Tree) (a : Address) : Prop :=
  ∃ b i call types, b ++ [i] <+: a ∧ t.at? b = some call ∧ call.children[i]? = some types ∧
    call.kind = "call_expression" ∧ types.role = some "type_arguments"

theorem drops_iff : t.drops c ↔ t.kind = "call_expression" ∧ c.role = some "type_arguments" := by
  simp [drops]

theorem not_inTypeArguments_nil (t : Tree) : ¬t.InTypeArguments [] := by
  intro ⟨b, i, _, _, hp, _⟩
  simp at hp

-- The first step does it, or a later one.
theorem inTypeArguments_cons (h : t.children[i]? = some c) :
    t.InTypeArguments (i :: a) ↔ t.drops c ∨ c.InTypeArguments a := by
  rw [drops_iff]
  constructor
  case mp =>
    intro ⟨b, j, call, types, hp, hb, hj, hk, hr⟩
    cases b
    case nil =>
      obtain ⟨rfl, _⟩ := List.cons_prefix_cons.mp hp
      cases hb
      cases h.symm.trans hj
      exact .inl ⟨hk, hr⟩
    case cons k b =>
      rw [List.cons_append, List.cons_prefix_cons] at hp
      obtain ⟨rfl, hp⟩ := hp
      rw [at?_cons h] at hb
      exact .inr ⟨b, j, call, types, hp, hb, hj, hk, hr⟩
  case mpr =>
    intro h'
    cases h'
    case inl h' => exact ⟨[], i, t, c, by simp, rfl, h, h'.left, h'.right⟩
    case inr h' =>
      obtain ⟨b, j, call, types, hp, hb, hr⟩ := h'
      exact ⟨i :: b, j, call, types, by simpa using hp, by rw [at?_cons h, hb], hr⟩

mutual

-- The addresses of the return statements that are kept, in the order of a walk.
def returnAddresses : Tree → List Address
  | node kind role extent children =>
    let below := returnAddressesAmong (node kind role extent children) 0 children
    if kind == "return_statement" then [] :: below else below

def returnAddressesAmong (parent : Tree) (i : Nat) : List Tree → List Address
  | []      => []
  | t :: ts =>
    let behind := returnAddressesAmong parent (i + 1) ts
    if parent.drops t then behind else t.returnAddresses.map (i :: ·) ++ behind

end

-- The parts that are looked into, each with its place.
def keptChildren (t : Tree) : List (Tree × Nat) :=
  t.children.zipIdx.filter fun p => !t.drops p.1

theorem mem_keptChildren : (c, i) ∈ t.keptChildren ↔ t.children[i]? = some c ∧ ¬t.drops c := by
  simp [keptChildren, List.mk_mem_zipIdx_iff_getElem?]

theorem keptChildren_pairwise (t : Tree) : t.keptChildren.Pairwise fun p q => p.2 < q.2 := by
  refine List.Pairwise.filter _ (List.pairwise_map.mp ?_)
  rw [List.zipIdx_map_snd]
  exact List.pairwise_lt_range'

theorem map_fst_keptChildren (t : Tree) : t.keptChildren.map Prod.fst = t.children.filter (!t.drops ·) := by
  have h := List.filter_map (f := Prod.fst) (p := (!t.drops ·)) (l := t.children.zipIdx)
  rw [List.zipIdx_map_fst] at h
  exact h.symm

theorem returnAddressesAmong_eq (parent : Tree) (i : Nat) (ts : List Tree) :
    returnAddressesAmong parent i ts =
      ((ts.zipIdx i).filter fun p => !parent.drops p.1).flatMap
        fun p => p.1.returnAddresses.map (p.2 :: ·) := by
  induction ts generalizing i
  case nil          => simp [returnAddressesAmong]
  case cons t ts hi => cases h : parent.drops t <;> simp [returnAddressesAmong, h, hi]

theorem returnAddresses_eq (t : Tree) :
    t.returnAddresses =
      (if t.kind == "return_statement" then [[]] else []) ++
        t.keptChildren.flatMap fun p => p.1.returnAddresses.map (p.2 :: ·) := by
  cases t with | node kind role extent children =>
  rw [returnAddresses, returnAddressesAmong_eq]
  cases h : kind == "return_statement" <;> simp [Tree.kind, keptChildren, Tree.children, h]

theorem nil_mem_returnAddresses : [] ∈ t.returnAddresses ↔ t.kind = "return_statement" := by
  rw [returnAddresses_eq]
  by_cases h : t.kind = "return_statement" <;> simp [h]

theorem cons_mem_returnAddresses :
    i :: a ∈ t.returnAddresses ↔ ∃ c, t.children[i]? = some c ∧ ¬t.drops c ∧ a ∈ c.returnAddresses := by
  have h : i :: a ∉ if t.kind == "return_statement" then [[]] else [] := by
    split <;> simp
  simp only [returnAddresses_eq t, List.mem_append, h, false_or, List.mem_flatMap, List.mem_map]
  constructor
  case mp =>
    intro ⟨⟨c, j⟩, hc, b, hb, he⟩
    obtain ⟨rfl, rfl⟩ := List.cons.inj he
    obtain ⟨hc, hd⟩ := mem_keptChildren.mp hc
    exact ⟨c, hc, hd, hb⟩
  case mpr =>
    intro ⟨c, hc, hd, ha⟩
    exact ⟨(c, i), mem_keptChildren.mpr ⟨hc, hd⟩, a, ha, rfl⟩

-- They are those of all return statements that no call has in its type arguments.
theorem mem_returnAddresses_iff :
    a ∈ t.returnAddresses ↔
      (∃ r, t.at? a = some r ∧ r.kind = "return_statement") ∧ ¬t.InTypeArguments a := by
  induction a generalizing t
  case nil => simp [nil_mem_returnAddresses, at?, not_inTypeArguments_nil]
  case cons i a hi =>
    rw [cons_mem_returnAddresses]
    constructor
    case mp =>
      intro ⟨c, hc, hd, ha⟩
      obtain ⟨hr, hn⟩ := hi.mp ha
      rw [at?_cons hc, inTypeArguments_cons hc]
      exact ⟨hr, not_or.mpr ⟨hd, hn⟩⟩
    case mpr =>
      intro ⟨⟨r, hr, hk⟩, hn⟩
      obtain ⟨c, hc, hr⟩ := at?_cons_eq_some_iff.mp hr
      rw [inTypeArguments_cons hc, not_or] at hn
      exact ⟨c, hc, hn.left, hi.mpr ⟨⟨r, hr, hk⟩, hn.right⟩⟩

theorem returnAddresses_pairwise (t : Tree) : t.returnAddresses.Pairwise (List.Lex (· < ·)) := by
  induction t using children_induction
  case step t hi =>
    rw [returnAddresses_eq, List.pairwise_append, List.pairwise_flatMap]
    refine ⟨by split <;> simp, ⟨?each, ?between⟩, ?first⟩
    case each =>
      intro ⟨c, i⟩ hc
      have hc := List.mem_of_getElem? (mem_keptChildren.mp hc).left
      exact (hi c hc).map _ fun _ _ => .cons
    case between =>
      -- What stands in an earlier part comes before what stands in a later one.
      refine t.keptChildren_pairwise.imp fun {p q} hl a ha b hb => ?_
      obtain ⟨_, _, rfl⟩ := List.mem_map.mp ha
      obtain ⟨_, _, rfl⟩ := List.mem_map.mp hb
      exact .rel hl
    case first =>
      intro a ha b hb
      obtain ⟨p, _, hb⟩ := List.mem_flatMap.mp hb
      obtain ⟨_, _, rfl⟩ := List.mem_map.mp hb
      have ha : a = [] := by split at ha <;> simp_all
      exact ha ▸ .nil

theorem map_at?_returnAddresses (t : Tree) : t.returnAddresses.map t.at? = t.keptReturns.map some := by
  induction t using children_induction
  case step t hi =>
    have hb : (t.keptChildren.flatMap fun p => p.1.returnAddresses.map (p.2 :: ·)).map t.at? =
        ((t.children.filter (!t.drops ·)).flatMap keptReturns).map some := by
      rw [← map_fst_keptChildren, List.flatMap_map, List.map_flatMap, List.map_flatMap]
      refine List.flatMap_congr fun ⟨c, i⟩ hc => ?_
      have hc := (mem_keptChildren.mp hc).left
      rw [List.map_map, ← hi c (List.mem_of_getElem? hc)]
      exact List.map_congr_left fun a _ => at?_cons hc a
    rw [returnAddresses_eq, keptReturns_eq, List.map_append, List.map_append, hb]
    cases h : t.kind == "return_statement" <;> simp [h, at?]

-- What a return statement is lowered to: a return that stands where the statement starts, counted from one.
def StandsFor (source : String) (body : Tree) (a : Address) (n : Node) : Prop :=
  ∃ r p, body.at? a = some r ∧ r.StartsAt p ∧ n = .ret p (r.expressions.map (·.toNode source))

-- The returns among some nodes stand for the return statements of a body, one for each that is not in the type
-- arguments of a call, in the order of their addresses.
def KeepsReturns (source : String) (body : Tree) (nodes : List Node) : Prop :=
  ∃ addresses : List Address,
    addresses.Pairwise (List.Lex (· < ·)) ∧
    (∀ a, a ∈ addresses ↔
      (∃ r, body.at? a = some r ∧ r.kind = "return_statement") ∧ ¬body.InTypeArguments a) ∧
    List.Forall₂ (StandsFor source body) addresses (Node.returns nodes)

theorem mem_subtrees_of_at? (h : t.at? a = some n) : n ∈ t.subtrees := by
  induction a generalizing t
  case nil => cases h; exact n.self_mem_subtrees
  case cons i a hi =>
    obtain ⟨c, hc, hn⟩ := at?_cons_eq_some_iff.mp h
    exact mem_subtrees_of_child (List.mem_of_getElem? hc) (hi hn)

-- The addresses and the statements are listed alike.
theorem forall₂_returnAddresses (t : Tree) :
    List.Forall₂ (fun a r => t.at? a = some r) t.returnAddresses t.keptReturns := by
  have h := t.map_at?_returnAddresses
  rw [← List.forall₂_eq_eq_eq, List.forall₂_map_left_iff, List.forall₂_map_right_iff] at h
  exact h

theorem keepsReturns_block (source : String) (h : t.WellFormed) (hk : t.kind = "block") :
    KeepsReturns source t (t.toNodes source) := by
  refine ⟨t.returnAddresses, t.returnAddresses_pairwise, fun _ => mem_returnAddresses_iff, ?_⟩
  have hr : ∀ a ∈ t.returnAddresses, ∃ r, t.at? a = some r ∧ r.kind = "return_statement" :=
    fun a ha => (mem_returnAddresses_iff.mp ha).left
  have hf := (List.forall₂_and_left _ _).mpr ⟨hr, t.forall₂_returnAddresses⟩
  rw [returns_toNodes source h (hk ▸ isPlain_block), List.forall₂_map_right_iff]
  refine hf.imp fun a r ⟨⟨r', ha, hk⟩, ha'⟩ => ?_
  cases ha.symm.trans ha'
  have hn := (h.below (mem_subtrees_of_at? ha)).self
  exact ⟨r, r.position, ha, r.startsAt_position, toNode_return hn hk⟩

-- A function that has a body is lowered to one that has, with the returns that are kept of it.
structure LowersBody (source : String) (t : Tree) (f : FunctionDecl) : Prop where
  present : ∀ body, t.part? "body" = some body → ∃ nodes, f.body = some nodes ∧ KeepsReturns source body nodes
  absent  : t.part? "body" = none → f.body = none

theorem toFunction_lowersBody (source : String) (h : t.WellFormed) (hf : t.kind ∈ functionKinds) :
    LowersBody source t (t.toFunction source) where
  present body hb := by
    have hk := h.self.body_kind hf hb
    exact ⟨body.toNodes source, by simp [toFunction, hb], keepsReturns_block source (h.part hb) hk⟩
  absent hb := by simp [toFunction, hb]

namespace Nested

open Grouped (piece)

def text : String :=
  "func F() T \x7b return func() \x7b return \x7d().M(func() \x7b return \x7d, " ++
    "T\x7bfunc() \x7b return \x7d\x7d, f[[n(func() \x7b return \x7d)]T](x, y)) \x7d"

-- A function literal that does nothing but return.
def literal (role : Option String) (first : Nat) : Tree :=
  piece "func_literal" role first (first + 17) [
    piece "parameter_list" (some "parameters") (first + 4) (first + 6) [],
    piece "block" (some "body") (first + 7) (first + 17) [
      piece "return_statement" none (first + 9) (first + 15) []]]

def callee : Tree :=
  piece "selector_expression" (some "function") 20 41 [
    piece "call_expression" (some "operand") 20 39 [
      literal (some "function") 20,
      piece "argument_list" (some "arguments") 37 39 []],
    piece "field_identifier" (some "field") 40 41 []]

def composite : Tree :=
  piece "composite_literal" none 61 81 [
    piece "type_identifier" (some "type") 61 62 [],
    piece "literal_value" (some "body") 62 81 [
      piece "literal_element" none 63 80 [literal none 63]]]

-- A call with type arguments, and a literal in the length of an array type there.
def generic : Tree :=
  piece "call_expression" none 83 115 [
    piece "identifier" (some "function") 83 84 [],
    piece "type_arguments" (some "type_arguments") 84 109 [
      piece "type_elem" none 85 108 [
        piece "array_type" none 85 108 [
          piece "call_expression" (some "length") 86 106 [
            piece "identifier" (some "function") 86 87 [],
            piece "argument_list" (some "arguments") 87 106 [literal none 88]],
          piece "type_identifier" (some "element") 107 108 []]]],
    piece "argument_list" (some "arguments") 109 115 [
      piece "identifier" none 110 111 [],
      piece "identifier" none 113 114 []]]

def body : Tree :=
  piece "block" (some "body") 11 118 [
    piece "return_statement" none 13 116 [
      piece "expression_list" none 20 116 [
        piece "call_expression" none 20 116 [
          callee,
          piece "argument_list" (some "arguments") 41 116 [literal none 42, composite, generic]]]]]

def function : Tree :=
  piece "function_declaration" none 0 118 [
    piece "identifier" (some "name") 5 6 [],
    piece "parameter_list" (some "parameters") 6 8 [],
    piece "type_identifier" (some "result") 9 10 [],
    body]

def file : Tree :=
  piece "source_file" none 0 118 [function]

end Nested

-- Lowering a file keeps the return statements of every function body, those of function literals included, and
-- loses just the ones in the type arguments of calls.
theorem toSourceTree_keepsReturns (source : String) (path : Option String) (h : t.Grammatical) :
    List.Forall₂ (LowersBody source) t.functions (t.toSourceTree source path).functions ∧
    ∀ block ∈ t.subtrees, block.kind = "block" → KeepsReturns source block (block.toNodes source) := by
  refine ⟨?functions, fun block hb hk => keepsReturns_block source (h.wellFormed.below hb) hk⟩
  case functions =>
    rw [functions_toSourceTree, ← h.functions_eq, List.forall₂_map_right_iff, List.forall₂_same]
    intro f hf
    obtain ⟨hs, hk⟩ := List.mem_filter.mp hf
    exact toFunction_lowersBody source (h.wellFormed.below hs) (by simpa using hk)

-- Kept are the returns of literals that are called, passed on and put into other literals, all of them in the
-- result of a return. The one in a type argument is not.
theorem keepsReturns_nested :
    Nested.file.Grammatical ∧
    Nested.file.functions = [Nested.function] ∧
    Nested.function.part? "body" = some Nested.body ∧
    Nested.body.returnAddresses =
      [[0], [0, 0, 0, 0, 0, 0, 1, 0], [0, 0, 0, 1, 0, 1, 0], [0, 0, 0, 1, 1, 1, 0, 0, 1, 0]] ∧
    (Nested.body.at? [0, 0, 0, 1, 2, 1, 0, 0, 0, 1, 0, 1, 0]).map kind = some "return_statement" ∧
    Nested.body.InTypeArguments [0, 0, 0, 1, 2, 1, 0, 0, 0, 1, 0, 1, 0] ∧
    List.Forall₂ (LowersBody Nested.text) [Nested.function]
      (Nested.file.toSourceTree Nested.text none).functions ∧
    KeepsReturns Nested.text Nested.body (Nested.body.toNodes Nested.text) := by
  have h := toSourceTree_keepsReturns Nested.text none (t := Nested.file) (by decide)
  have hb : Nested.body ∈ Nested.file.subtrees := mem_subtrees_of_at? (a := [0, 3]) rfl
  refine ⟨by decide, rfl, rfl, by decide, by decide, ?dropped, h.left, h.right Nested.body hb rfl⟩
  case dropped => exact ⟨[0, 0, 0, 1, 2], 1, Nested.generic, _, by decide, rfl, rfl, rfl, rfl⟩

end ErrorOrigins.Go.Tree
