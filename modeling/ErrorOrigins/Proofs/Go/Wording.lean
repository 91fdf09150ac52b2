import ErrorOrigins.Proofs.Addresses
import ErrorOrigins.Proofs.Go.DeclarationPhrases

namespace ErrorOrigins

namespace Node

-- What the node says by itself, its parts aside.
def Worded : Node → Prop
  | selector _ _ member => OneLine member
  | ident _ name        => OneLine name
  | literal _ kind text => kind.Wraps text
  | _                   => True

theorem mem_preorder_iff {n : Node} {forest : List Node} :
    n ∈ preorder forest ↔ ∃ m ∈ forest, n = m ∨ n ∈ preorder m.children := by
  induction forest
  case nil => simp [preorder]
  case cons m rest hi =>
    have hp : preorder (m :: rest) = m :: (preorder m.children ++ preorder rest) := by
      simp [preorder, walk_cons, walk_append, within]
    rw [hp, List.mem_cons, List.mem_append, hi, List.exists_mem_cons_iff, or_assoc]

theorem size_le_sizes {n : Node} {forest : List Node} (h : n ∈ forest) : n.size ≤ sizes forest := by
  induction forest
  case nil => cases h
  case cons m forest hi =>
    rw [sizes]
    rcases List.mem_cons.mp h with rfl | h
    · omega
    · have := hi h
      omega

theorem mem_preorder_of_mem_children {n c : Node} {forest : List Node} (hn : n ∈ preorder forest)
    (hc : c ∈ n.children) : c ∈ preorder forest := by
  induction hs : sizes forest using Nat.strong_induction_on generalizing forest
  case h _ hi =>
    obtain ⟨m, hm, hn⟩ := mem_preorder_iff.mp hn
    rcases hn with rfl | hn
    · exact mem_preorder_iff.mpr ⟨n, hm, .inr (mem_preorder_iff.mpr ⟨c, hc, .inl rfl⟩)⟩
    · have hlt : sizes m.children < sizes forest := by
        have hl := size_le_sizes hm
        rw [size_eq] at hl
        omega
      exact mem_preorder_iff.mpr ⟨m, hm, .inr (hi _ (hs ▸ hlt) hn rfl)⟩

end Node

structure FunctionDecl.Worded (f : FunctionDecl) : Prop where
  name  : OneLine f.name
  nodes : ∀ n ∈ Node.preorder (f.body.getD []), n.Worded

structure SourceTree.Worded (t : SourceTree) : Prop where
  path      : ∀ path ∈ t.path, OneLine path
  functions : ∀ f ∈ t.functions, f.Worded

namespace Go.Tree

variable {source : String} {t c : Tree}

theorem Tidy.worded_toNode (h : t.Tidy source) : (t.toNode source).Worded := by
  have hw : ∀ k ∈ nameKinds, k ∈ wordKinds ++ numberKinds := by decide
  have hd : "field_identifier" ∈ wordKinds ++ numberKinds := by decide
  generalize hn : t.toNode source = n
  have hs := hn ▸ h.formed.lowersTo source
  cases hs
  case return_ => trivial
  case call    => trivial
  case plain   => trivial
  case selector operand field _ hf hk _ =>
    exact ((h.child (mem_children_of_part? hf)).isToken (hk ▸ hd)).oneLine
  case name hk _ => exact (h.isToken (hw _ hk)).oneLine
  case literal hk =>
    obtain ⟨literal, hl, he⟩ := toNode_literal source hk
    cases he.symm.trans hn
    exact h.wraps hl

-- The parts of a lowered node are lowered from what stands below the node.
theorem Formed.exists_subtree {n : Node} (h : t.Formed) (hn : n ∈ (t.toNode source).children) :
    ∃ c ∈ t.children, ∃ d ∈ c.subtrees, n = d.toNode source := by
  have direct {c : Tree} (hc : c ∈ t.children) :
      ∃ c' ∈ t.children, ∃ d ∈ c'.subtrees, c.toNode source = d.toNode source :=
    ⟨c, hc, c, self_mem_subtrees c, rfl⟩
  have below {c : Tree} (hc : c ∈ t.children) (hn : n ∈ c.parts.map (·.toNode source)) :
      ∃ c' ∈ t.children, ∃ d ∈ c'.subtrees, n = d.toNode source := by
    obtain ⟨d, hd, rfl⟩ := List.mem_map.mp hn
    exact ⟨c, hc, d, mem_subtrees_of_child (mem_children_of_mem_parts hd) (self_mem_subtrees d), rfl⟩
  generalize hm : t.toNode source = m at hn
  have hs := hm ▸ h.lowersTo source
  cases hs
  case return_ =>
    rw [Node.children, expressions] at hn
    split at hn
    case h_1 list hl => exact below (mem_children_of_mem_parts (List.mem_of_find?_eq_some hl)) hn
    case h_2         => cases hn
  case call function arguments _ hf ha _ _ =>
    rcases List.mem_cons.mp hn with rfl | hn
    · exact direct (mem_children_of_part? hf)
    · exact below (mem_children_of_part? ha) hn
  case selector operand field _ _ _ hp =>
    rw [List.mem_singleton.mp hn]
    exact direct (mem_children_of_mem_parts (hp ▸ List.mem_cons_self))
  case plain =>
    obtain ⟨c, hc, rfl⟩ := List.mem_map.mp hn
    exact direct (mem_children_of_mem_parts hc)
  all_goals cases hn

theorem Tidy.worded (h : t.Tidy source) : ∀ n ∈ Node.preorder [t.toNode source], n.Worded := by
  -- The results of a return are lowered from parts of its list, so the children alone are not enough.
  suffices hs : ∀ d ∈ t.subtrees, ∀ n ∈ Node.preorder [d.toNode source], n.Worded from hs t (self_mem_subtrees t)
  induction t using children_induction
  case step t hi =>
    intro d hd n hn
    rw [subtrees_eq, List.mem_cons, List.mem_flatMap] at hd
    rcases hd with rfl | ⟨c, hc, hd⟩
    case inr => exact hi c hc (h.child hc) d hd n hn
    obtain ⟨m, hm, hn⟩ := Node.mem_preorder_iff.mp hn
    rw [List.mem_singleton.mp hm] at hn
    rcases hn with rfl | hn
    case inl => exact h.worded_toNode
    obtain ⟨m, hm, hn⟩ := Node.mem_preorder_iff.mp hn
    obtain ⟨c, hc, e, he, rfl⟩ := h.formed.exists_subtree hm
    exact hi c hc (h.child hc) e he n (Node.mem_preorder_iff.mpr ⟨_, List.mem_singleton_self _, hn⟩)

theorem Declared.worded (h : t.Declared source) (hf : t.isFunction) : (t.toFunction source).Worded := by
  cases h
  case other h =>
    have hk : t.kind ∈ functionKinds := by simpa [isFunction_eq] using hf
    exact absurd (List.mem_append_right _ hk) h.inner
  case function kind role extent children hk hc hn hb =>
    constructor
    case name =>
      cases hp : (node kind role extent children).part? "name"
      case none   => simp [toFunction, hp, OneLine]
      case some c =>
        have hm := mem_children_of_part? hp
        have hr : c.role = some "name" := by simpa using List.find?_some hp
        simpa [toFunction, hp] using ((hc c hm).isToken (List.mem_append_left _ (hn c hm hr))).oneLine
    case nodes =>
      intro n hn
      cases hp : (node kind role extent children).part? "body"
      case none   => simp [toFunction, hp, Node.preorder] at hn
      case some b =>
        simp only [toFunction, hp, Option.map_some, Option.getD_some, toNodes_eq] at hn
        obtain ⟨m, hm, hn⟩ := Node.mem_preorder_iff.mp hn
        obtain ⟨c, hc', rfl⟩ := List.mem_map.mp hm
        have ht := (hc b (mem_children_of_part? hp)).child (mem_children_of_mem_parts hc')
        exact ht.worded n (Node.mem_preorder_iff.mpr ⟨_, List.mem_singleton_self _, hn⟩)

theorem IsFile.worded {path : Option String} (h : t.IsFile source) (hp : ∀ p ∈ path, OneLine p) :
    (t.toSourceTree source path).Worded := by
  refine ⟨hp, fun f hf => ?_⟩
  obtain ⟨d, hd, hf⟩ := List.mem_filterMap.mp hf
  obtain ⟨c, hc, rfl⟩ := List.mem_map.mp hd
  have hm := mem_children_of_mem_parts (List.mem_filter.mp hc).left
  rw [toDecl] at hf
  split_ifs at hf with hfun
  cases hf
  exact (h.declared c hm).worded hfun

end Go.Tree

theorem Go.worded_of_parseFile {firstError : ErrorFinder} {file : SourceFile} {tree : SourceTree}
    (h : (parseFile firstError file).Answers (.ok tree)) (hp : ∀ path ∈ file.path, OneLine path) : tree.Worded := by
  obtain ⟨text, bare, -, hb, rfl⟩ := Go.parseFile_ok h
  exact hb.worded hp

end ErrorOrigins
