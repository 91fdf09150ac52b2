import ErrorOrigins.Proofs.Go.Grammar
import ErrorOrigins.Proofs.ReturnSites

namespace ErrorOrigins.Go.Tree

variable {source : String} {t c : Tree}

-- A call is lowered without its type arguments.
def drops (t c : Tree) : Bool :=
  t.kind == "call_expression" && c.role == some "type_arguments"

mutual

-- The return statements of a tree in pre-order, but for those in type arguments of calls.
def keptReturns : Tree → List Tree
  | node kind role extent children =>
    let t := node kind role extent children
    if kind == "return_statement" then t :: keptAmong t children else keptAmong t children

def keptAmong (parent : Tree) : List Tree → List Tree
  | []      => []
  | t :: ts => if parent.drops t then keptAmong parent ts else keptReturns t ++ keptAmong parent ts

end

theorem keptAmong_eq (parent : Tree) (ts : List Tree) :
    keptAmong parent ts = (ts.filter (!parent.drops ·)).flatMap keptReturns := by
  induction ts
  case nil          => simp [keptAmong]
  case cons t ts hi => cases h : parent.drops t <;> simp [keptAmong, h, hi]

theorem keptReturns_eq (t : Tree) :
    t.keptReturns =
      [t].filter (·.kind == "return_statement") ++ (t.children.filter (!t.drops ·)).flatMap keptReturns := by
  cases t with | node kind role extent children =>
  rw [keptReturns, keptAmong_eq]
  cases h : kind == "return_statement" <;> simp [Tree.kind, Tree.children, h]

theorem keptReturns_comment (h : c.Formed) (hc : c.isComment) : c.keptReturns = [] := by
  have hk : c.kind = "comment" := by simpa [isComment] using hc
  have hn : c.children = [] := h.token (by simp [hk, tokenKinds])
  simp [keptReturns_eq, hk, hn]

-- Comments hold no return statements, so it makes no difference whether they count as parts.
theorem keptReturns_eq_parts (h : ∀ c ∈ t.children, c.Formed) :
    t.keptReturns =
      [t].filter (·.kind == "return_statement") ++ (t.parts.filter (!t.drops ·)).flatMap keptReturns := by
  rw [keptReturns_eq, parts]
  congr 1
  revert h
  generalize t.children = ts
  intro h
  induction ts
  case nil => rfl
  case cons c ts hi =>
    obtain ⟨hc, hs⟩ := List.forall_mem_cons.mp h
    cases hm : c.isComment
    case false => cases hd : t.drops c <;> simp [hm, hd, hi hs]
    case true  => cases hd : t.drops c <;> simp [hm, hd, hi hs, keptReturns_comment hc hm]

theorem isReturn_toNode (h : t.Formed) : (t.toNode source).isReturn = (t.kind == "return_statement") := by
  have hn := h.lowersTo source
  generalize t.toNode source = n at hn ⊢
  cases hn
  case return_ hk         => simp [Node.isReturn, hk]
  case call hk _ _ _ _    => simp [Node.isReturn, hk]
  case selector hk _ _ _  => simp [Node.isReturn, hk]
  case name hr _ _ _ _    => simp [Node.isReturn, hr]
  case literal hr _ _ _ _ => simp [Node.isReturn, hr]
  case plain hp           => simp [Node.isReturn, hp.not_return]

theorem returns_plain (source : String) (h : IsPlain t.kind) :
    Node.returns [t.toNode source] = Node.returns (t.parts.map (·.toNode source)) := by
  rw [Node.returns_singleton, toNode_plain h]
  simp [Node.isReturn, Node.children]

-- No return stands in a token.
theorem returns_token (source : String) (h : c.Formed) (hk : c.kind ∈ "field_identifier" :: pieceKinds) :
    Node.returns [c.toNode source] = [] := by
  have hp : IsPlain c.kind := by
    simp only [pieceKinds, List.mem_cons, List.not_mem_nil, or_false] at hk
    rcases hk with hk | hk | hk | hk <;> rw [hk] <;> constructor <;> decide
  have hn : c.parts = [] := h.parts_eq_nil (by simp [tokenKinds] at hk ⊢; grind)
  simp [returns_plain source hp, hn]

theorem filter_drops_eq (h : t.kind ≠ "call_expression") (ts : List Tree) : ts.filter (!t.drops ·) = ts := by
  simp [drops, h]

-- What lowering does to the parts of a node changes nothing about the returns below it: it drops tokens and
-- type arguments, and puts the parts of a list in the place of the list.
theorem returns_children_toNode (source : String) (ht : t.Formed) (hc : ∀ c ∈ t.children, c.Formed) :
    Node.returns (t.toNode source).children =
      (t.parts.filter (!t.drops ·)).flatMap fun c => Node.returns [c.toNode source] := by
  replace hc : ∀ c ∈ t.parts, c.Formed := fun c h => hc c (mem_children_of_mem_parts h)
  have hn := ht.lowersTo source
  generalize t.toNode source = n at hn ⊢
  cases hn
  case return_ hk =>
    have hn : t.kind ≠ "call_expression" := by simp [hk]
    rw [filter_drops_eq hn]
    cases ht.return_parts hk
    case inl hp => simp [expressions, hp, Node.children]
    case inr hl =>
      obtain ⟨list, hl, hp⟩ := hl
      have hr := returns_plain source (t := list) (hl ▸ isPlain_expression_list)
      simp [expressions, hp, hl, Node.children, hr]
  case call function arguments hk _ _ hl hp =>
    have hr := returns_plain source (t := arguments) (hl ▸ isPlain_argument_list)
    have hd : t.parts.filter (!t.drops ·) = [function, arguments] := by
      rw [← hp]
      exact List.filter_congr fun c _ => by simp [drops, hk, bne]
    rw [Node.children, Node.returns_cons, hd]
    simp [hr]
  case selector operand field hk _ hl hp =>
    have hr := returns_token source (hc field (by simp [hp])) (by simp [hl])
    have hn : t.kind ≠ "call_expression" := by simp [hk]
    rw [filter_drops_eq hn, hp]
    simp [Node.children, hr]
  case name _ _ _ hn _ =>
    have hp : t.parts = [] := ht.parts_eq_nil (by simp [tokenKinds, hn])
    simp [Node.children, hp]
  case literal _ _ _ _ _ hl =>
    have hr : ∀ c ∈ t.parts, Node.returns [c.toNode source] = [] := fun c h =>
      returns_token source (hc c h) (List.mem_cons_of_mem _ (ht.literal hl c h))
    simp only [Node.children, Node.returns_nil]
    symm
    simpa [List.flatMap_eq_nil_iff] using fun c h _ => hr c h
  case plain hp =>
    rw [filter_drops_eq hp.not_call, Node.children, Node.returns_eq_flatMap, List.flatMap_map]

-- The returns of a lowered tree are what its kept return statements are lowered to.
theorem returns_toNode (source : String) (h : t.WellFormed) :
    Node.returns [t.toNode source] = t.keptReturns.map (·.toNode source) := by
  induction t using children_induction
  case step t hi =>
    have hc : ∀ c ∈ t.children, c.Formed := fun c hc => (h.child hc).self
    have hb : (t.parts.filter (!t.drops ·)).flatMap (fun c => Node.returns [c.toNode source]) =
        (t.parts.filter (!t.drops ·)).flatMap fun c => c.keptReturns.map (·.toNode source) := by
      refine List.flatMap_congr fun c hp => ?_
      have hp := mem_children_of_mem_parts (List.mem_filter.mp hp).left
      exact hi c hp (h.child hp)
    -- What is left is the node itself, which is a return just if its statement is.
    rw [Node.returns_singleton, returns_children_toNode source h.self hc, hb, keptReturns_eq_parts hc]
    simp only [List.map_append, List.map_flatMap]
    congr 1
    cases hr : t.kind == "return_statement" <;> simp [isReturn_toNode h.self, hr]

theorem returns_toNodes (source : String) (h : t.WellFormed) (hk : IsPlain t.kind) :
    Node.returns (t.toNodes source) = t.keptReturns.map (·.toNode source) := by
  rw [toNodes_eq, ← returns_plain source hk, returns_toNode source h]

end ErrorOrigins.Go.Tree
