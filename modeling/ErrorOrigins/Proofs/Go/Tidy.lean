import ErrorOrigins.Proofs.Go.Grammar

namespace ErrorOrigins

def OneLine (s : String) : Prop :=
  '\n' ∉ s.toList

instance (s : String) : Decidable (OneLine s) :=
  inferInstanceAs (Decidable ('\n' ∉ s.toList))

-- How the text of a literal can go over several lines, if it does.
inductive LiteralKind.Wraps : LiteralKind → String → Prop
  | oneLine {kind : LiteralKind} {text : String} (h : OneLine text) :
    Wraps kind text
  | rune :
    Wraps .char "'\n'"
  | raw {text : String} (h : text.toList.head? = some '\x60') :
    Wraps .string text
  -- Newlines stand right after a backslash.
  | escaped {text : String} (hq : text.toList.head? = some '"')
      (hc : text.toList.IsChain fun a b => b = '\n' → a = '\\') :
    Wraps .string text

namespace Go.Tree

variable {source kind : String} {role : Option String} {extent : Extent} {children : List Tree} {t c : Tree}

def wordKinds : List String :=
  ["type_identifier", "field_identifier"] ++ nameKinds

def numberKinds : List String :=
  ["int_literal", "float_literal", "imaginary_literal"]

def quotedKinds : List String :=
  ["rune_literal", "interpreted_string_literal", "raw_string_literal"]

-- What stands at the top of a file only, and comments, which are put in later.
def outerKinds : List String :=
  ["comment", "source_file"] ++ functionKinds

-- The kinds of nodes that are not made of just any parts.
def strictKinds : List String :=
  outerKinds ++ wordKinds ++ numberKinds ++ quotedKinds ++ pieceKinds ++
    ["return_statement", "call_expression", "selector_expression"]

-- What can be read, other than declarations of functions.
inductive Tidy (source : String) : Tree → Prop
  | node {kind : String} {role : Option String} {extent : Extent} {children : List Tree} (hk : kind ∉ strictKinds)
      (hc : ∀ c ∈ children, Tidy source c) :
    Tidy source (node kind role extent children)
  | token {kind : String} {role : Option String} {extent : Extent} (hk : kind ∈ wordKinds ++ numberKinds)
      (ho : OneLine (sliceBytes source extent.first extent.stop)) :
    Tidy source (node kind role extent [])
  | quoted {kind : String} {role : Option String} {extent : Extent} (hk : kind ∈ quotedKinds)
      (hw : ∀ literal ∈ literalKind? kind, literal.Wraps (sliceBytes source extent.first extent.stop)) :
    Tidy source (node kind role extent [])
  | return_ {role : Option String} {extent : Extent} {values : Option Tree}
      (hk : ∀ v ∈ values, v.kind = "expression_list") (hv : ∀ v ∈ values, Tidy source v) :
    Tidy source (node "return_statement" role extent values.toList)
  | call {role : Option String} {extent : Extent} {function : Tree} {types : Option Tree} {arguments : Tree}
      (hk : arguments.kind = "argument_list") (hf : Tidy source function) (ht : ∀ t ∈ types, Tidy source t)
      (ha : Tidy source arguments) :
    Tidy source (node "call_expression" role extent (function.withRole "function" ::
      (types.map (·.withRole "type_arguments")).toList ++ [arguments.withRole "arguments"]))
  | selector {role : Option String} {extent : Extent} {operand field : Tree} (hk : field.kind = "field_identifier")
      (ho : Tidy source operand) (hf : Tidy source field) :
    Tidy source (node "selector_expression" role extent [operand.withRole "operand", field.withRole "field"])

@[simp]
theorem kind_withRole (role : String) (t : Tree) : (t.withRole role).kind = t.kind := by
  cases t
  rfl

@[simp]
theorem role_withRole (role : String) (t : Tree) : (t.withRole role).role = some role := by
  cases t
  rfl

@[simp]
theorem kind_withKind (kind : String) (t : Tree) : (t.withKind kind).kind = kind := by
  cases t
  rfl

theorem withRole_eq_self {role : String} (h : t.role = some role) : t.withRole role = t := by
  obtain ⟨kind, role', extent, children⟩ := t
  cases h
  rfl

-- The role of a node is free.
theorem tidy_changeRole (h : (node kind role extent children).Tidy source) (role' : Option String) :
    (node kind role' extent children).Tidy source := by
  cases h
  case node hk hc        => exact .node hk hc
  case token hk ho       => exact .token hk ho
  case quoted hk hw      => exact .quoted hk hw
  case return_ hk hv     => exact .return_ hk hv
  case call hk hf ht ha  => exact .call hk hf ht ha
  case selector hk ho hf => exact .selector hk ho hf

@[simp]
theorem tidy_withRole_iff {role : String} : (t.withRole role).Tidy source ↔ t.Tidy source := by
  cases t
  exact ⟨(tidy_changeRole · _), (tidy_changeRole · _)⟩

@[simp]
theorem tidy_withoutRole_iff : t.withoutRole.Tidy source ↔ t.Tidy source := by
  cases t
  exact ⟨(tidy_changeRole · _), (tidy_changeRole · _)⟩

-- The first part of a node can be exchanged for one that counts as the same.
theorem tidy_changeFirst {extent' : Extent} {first first' : Tree} {rest : List Tree}
    (h : (node kind role extent (first :: rest)).Tidy source) (hf : first'.Tidy source)
    (hk : first'.kind = first.kind) (hr : first'.role = first.role) :
    (node kind role extent' (first' :: rest)).Tidy source := by
  generalize ht : node kind role extent (first :: rest) = t at h
  cases h
  case node hs hc =>
    cases ht
    exact .node hs (List.forall_mem_cons.mpr ⟨hf, (List.forall_mem_cons.mp hc).right⟩)
  case token  => cases ht
  case quoted => cases ht
  case return_ values hv _ =>
    cases values
    case none        => cases ht
    case some values =>
      cases ht
      change (node "return_statement" role extent' (some first').toList).Tidy source
      exact .return_ (by simpa [hk] using hv) (by simpa using hf)
  case call ha' _ hts ha =>
    cases ht
    rw [← withRole_eq_self (hr.trans (role_withRole ..))]
    exact .call ha' hf hts ha
  case selector hf' _ ha =>
    cases ht
    rw [← withRole_eq_self (hr.trans (role_withRole ..))]
    exact .selector hf' hf ha

theorem tidy_map_withRole {ts : List Tree} {role : String} (h : ∀ t ∈ ts, t.Tidy source) :
    ∀ t ∈ ts.map (·.withRole role), t.Tidy source := by
  simpa using h

theorem tidy_toList_withRole {o : Option Tree} {role : String} (h : ∀ t ∈ o, t.Tidy source) :
    ∀ t ∈ (o.map (·.withRole role)).toList, t.Tidy source := by
  cases o
  case none   => simp
  case some t => simpa using h

namespace Tidy

theorem inner (h : t.Tidy source) : t.kind ∉ outerKinds := by
  have hs : ∀ kind ∈ outerKinds, kind ∈ strictKinds := by decide
  have ht : ∀ kind ∈ wordKinds ++ numberKinds, kind ∉ outerKinds := by decide
  have hq : ∀ kind ∈ quotedKinds, kind ∉ outerKinds := by decide
  cases h
  case node hk _   => exact fun ho => hk (hs _ ho)
  case token hk _  => exact ht _ hk
  case quoted hk _ => exact hq _ hk
  all_goals
    simp only [kind]
    decide

theorem child (h : t.Tidy source) (hc : c ∈ t.children) : c.Tidy source := by
  cases h
  case node hs => exact hs c hc
  case return_ values hk hv => exact hv c (Option.mem_toList.mp hc)
  case call function types arguments hk hf ht ha =>
    have hc : (c = function.withRole "function" ∨ ∃ t ∈ types, t.withRole "type_arguments" = c) ∨
        c = arguments.withRole "arguments" := by
      simpa [Tree.children, or_assoc] using hc
    rcases hc with (rfl | ⟨t, hm, rfl⟩) | rfl
    · exact tidy_withRole_iff.mpr hf
    · exact tidy_withRole_iff.mpr (ht t hm)
    · exact tidy_withRole_iff.mpr ha
  case selector operand field hk ho hf =>
    have hc : c = operand.withRole "operand" ∨ c = field.withRole "field" := by simpa [Tree.children] using hc
    rcases hc with rfl | rfl
    · exact tidy_withRole_iff.mpr ho
    · exact tidy_withRole_iff.mpr hf
  all_goals cases hc

end Tidy

-- What the grammar asks of a node, if no part of it is a comment or a declaration.
structure Shape (kind : String) (children : List Tree) : Prop where
  token    : kind ∈ tokenKinds ++ literalKinds → children = []
  return_  : kind = "return_statement" → children.map Tree.kind ∈ [[], ["expression_list"]]
  call     : kind = "call_expression" →
    children.map Tree.role ∈
      [[some "function", some "arguments"], [some "function", some "type_arguments", some "arguments"]] ∧
    ∀ c ∈ children, c.role = some "arguments" → c.kind = "argument_list"
  selector : kind = "selector_expression" →
    children.map Tree.role = [some "operand", some "field"] ∧
    ∀ c ∈ children, c.role = some "field" → c.kind = "field_identifier"
  body     : kind ∈ functionKinds → ∀ c ∈ children, c.role = some "body" → c.kind = "block"

theorem parts_eq_children (h : ∀ c ∈ t.children, c.kind ≠ "comment") : t.parts = t.children := by
  refine List.filter_eq_self.mpr fun c hc => ?_
  simpa [isComment] using h c hc

theorem Shape.formed (h : Shape t.kind t.children) (hc : ∀ c ∈ t.children, c.kind ≠ "comment")
    (ht : ∀ c ∈ t.children, c.kind ≠ "source_file" ∧ (c.kind ∈ functionKinds → t.kind = "source_file")) :
    t.Formed := by
  have hp := parts_eq_children hc
  constructor
  case comment   => exact fun c hm hs => absurd (by simpa [isComment] using hs) (hc c hm)
  case token     => exact fun ht => h.token (List.mem_append_left _ ht)
  case literal   => exact fun hl c hm => by simp [hp, h.token (List.mem_append_right _ hl)] at hm
  case return_   => simpa [partKinds, hp] using h.return_
  case call      => simpa [partRoles, hp] using fun hk => (h.call hk).left
  case arguments => exact hp ▸ fun hk => (h.call hk).right
  case selector  => simpa [partRoles, hp] using fun hk => (h.selector hk).left
  case field     => exact hp ▸ fun hk => (h.selector hk).right
  case body      => exact h.body
  case topLevel  => exact ht

theorem Shape.formed_of_tidy (h : Shape t.kind t.children) (hc : ∀ c ∈ t.children, c.Tidy source) : t.Formed := by
  refine h.formed (fun c hm hk => ?_) fun c hm => ⟨fun hk => ?_, fun hf => ?_⟩
  · exact (hc c hm).inner (hk ▸ by decide)
  · exact (hc c hm).inner (hk ▸ by decide)
  · exact absurd (List.mem_append_right _ hf) (hc c hm).inner

-- A node without parts asks nothing but that calls and selectors have some.
theorem shape_nil (hc : kind ≠ "call_expression") (hs : kind ≠ "selector_expression") : Shape kind [] where
  token _     := rfl
  return_ _   := List.mem_cons_self
  call hk     := absurd hk hc
  selector hk := absurd hk hs
  body _ _ hm := absurd hm List.not_mem_nil

theorem shape_of_not_strict (hk : kind ∉ strictKinds) : Shape kind children := by
  have hn {kinds : List String} (hs : ∀ k ∈ kinds, k ∈ strictKinds) : kind ∉ kinds := fun h => hk (hs _ h)
  have he {kind' : String} (hs : kind' ∈ strictKinds) : kind ≠ kind' := fun h => hk (h ▸ hs)
  exact ⟨(absurd · (hn (by decide))), (absurd · (he (by decide))), (absurd · (he (by decide))),
    (absurd · (he (by decide))), (absurd · (hn (by decide)))⟩

theorem shape_return {values : Option Tree} (hk : ∀ v ∈ values, v.kind = "expression_list") :
    Shape "return_statement" values.toList := by
  refine ⟨(absurd · (by decide)), fun _ => ?_, (absurd · (by decide)), (absurd · (by decide)), (absurd · (by decide))⟩
  cases values
  case none        => exact List.mem_cons_self
  case some values => simp [hk values rfl]

theorem shape_call {arguments : Tree} (hk : arguments.kind = "argument_list") (function : Tree) (types : Option Tree) :
    Shape "call_expression" (function.withRole "function" ::
      (types.map (·.withRole "type_arguments")).toList ++ [arguments.withRole "arguments"]) := by
  refine ⟨(absurd · (by decide)), (absurd · (by decide)), fun _ => ⟨?roles, ?kind⟩, (absurd · (by decide)),
    (absurd · (by decide))⟩
  case roles => cases types <;> simp
  case kind  => cases types <;> simp [hk]

theorem shape_selector {field : Tree} (hk : field.kind = "field_identifier") (operand : Tree) :
    Shape "selector_expression" [operand.withRole "operand", field.withRole "field"] := by
  refine ⟨(absurd · (by decide)), (absurd · (by decide)), (absurd · (by decide)), fun _ => ⟨?roles, ?kind⟩,
    (absurd · (by decide))⟩
  case roles => simp
  case kind  => simp [hk]

theorem Tidy.shape (h : t.Tidy source) : Shape t.kind t.children := by
  have ht : ∀ k ∈ wordKinds ++ numberKinds ++ quotedKinds, k ≠ "call_expression" ∧ k ≠ "selector_expression" := by
    decide
  cases h
  case node hk _ => exact shape_of_not_strict hk
  case token kind _ _ hk _ =>
    have hk := ht kind (List.mem_append_left _ hk)
    exact shape_nil hk.left hk.right
  case quoted kind _ _ hk _ =>
    have hk := ht kind (List.mem_append_right _ hk)
    exact shape_nil hk.left hk.right
  case return_ hk _       => exact shape_return hk
  case call hk _ _ _      => exact shape_call hk _ _
  case selector hk _ _    => exact shape_selector hk _

theorem Tidy.formed (h : t.Tidy source) : t.Formed :=
  h.shape.formed_of_tidy fun _ => h.child

theorem Tidy.subtree {n : Tree} (h : t.Tidy source) (hn : n ∈ t.subtrees) : n.Tidy source := by
  induction t using children_induction
  case step t hi =>
    rw [subtrees_eq, List.mem_cons, List.mem_flatMap] at hn
    rcases hn with rfl | ⟨c, hc, hn⟩
    · exact h
    · exact hi c hc (h.child hc) hn

theorem Tidy.wellFormed (h : t.Tidy source) : t.WellFormed :=
  fun _ hn => (h.subtree hn).formed

-- A tree that is no more than a word or a number.
structure IsToken (source : String) (t : Tree) : Prop where
  tidy    : t.Tidy source
  leaf    : t.children = []
  oneLine : OneLine (t.textIn source)

theorem Tidy.isToken (h : t.Tidy source) (hk : t.kind ∈ wordKinds ++ numberKinds) : t.IsToken source := by
  have hs : ∀ k ∈ wordKinds ++ numberKinds, k ∈ strictKinds := by decide
  have hq : ∀ k ∈ wordKinds ++ numberKinds, k ∉ quotedKinds := by decide
  have ht := h
  cases h
  case node hn _   => exact absurd (hs _ hk) hn
  case token ho    => exact ⟨ht, rfl, ho⟩
  case quoted hn _ => exact absurd hn (hq _ hk)
  case return_     => exact absurd hk (by decide : "return_statement" ∉ wordKinds ++ numberKinds)
  case call        => exact absurd hk (by decide : "call_expression" ∉ wordKinds ++ numberKinds)
  case selector    => exact absurd hk (by decide : "selector_expression" ∉ wordKinds ++ numberKinds)

theorem Tidy.wraps {literal : LiteralKind} (h : t.Tidy source) (hl : literalKind? t.kind = some literal) :
    literal.Wraps (t.textIn source) := by
  have hs : ∀ k ∈ literalKinds, k ∈ strictKinds := by decide
  cases h
  case node kind _ _ _ hk _ =>
    have hn : literalKind? kind = none := literalKind?_eq_none_iff.mpr fun hm => hk (hs kind hm)
    exact absurd (hn.symm.trans hl) (by simp)
  case token _ ho  => exact .oneLine ho
  case quoted _ hw => exact hw literal hl
  all_goals cases hl

-- The kinds that a word can have in a tree.
def namingKinds : List String :=
  wordKinds ++ ["package_identifier", "label_name"]

theorem isToken_leaf (hk : kind ∈ namingKinds) (ho : OneLine (sliceBytes source extent.first extent.stop)) :
    (node kind role extent []).IsToken source := by
  refine ⟨?_, rfl, ho⟩
  rcases List.mem_append.mp hk with hw | hn
  · exact .token (List.mem_append_left _ hw) ho
  · have hs : ∀ k ∈ ["package_identifier", "label_name"], k ∉ strictKinds := by decide
    exact .node (hs kind hn) (by simp)

theorem IsToken.withKind (h : t.IsToken source) (hk : kind ∈ namingKinds) : (t.withKind kind).IsToken source := by
  obtain ⟨_, role, extent, children⟩ := t
  obtain rfl : children = [] := h.leaf
  exact isToken_leaf hk h.oneLine

-- What can be read at the top of a file.
inductive Declared (source : String) : Tree → Prop
  | function {kind : String} {role : Option String} {extent : Extent} {children : List Tree}
      (hk : kind ∈ functionKinds) (hc : ∀ c ∈ children, Tidy source c)
      (hn : ∀ c ∈ children, c.role = some "name" → c.kind ∈ wordKinds)
      (hb : ∀ c ∈ children, c.role = some "body" → c.kind = "block") :
    Declared source (node kind role extent children)
  | other {t : Tree} (h : Tidy source t) :
    Declared source t

namespace Declared

theorem kind_ne (h : t.Declared source) : t.kind ≠ "comment" ∧ t.kind ≠ "source_file" := by
  have hf : ∀ k ∈ functionKinds, k ≠ "comment" ∧ k ≠ "source_file" := by decide
  cases h
  case function hk _ _ _ => exact hf _ hk
  case other h           => exact ⟨fun hk => h.inner (hk ▸ by decide), fun hk => h.inner (hk ▸ by decide)⟩

theorem child (h : t.Declared source) (hc : c ∈ t.children) : c.Tidy source := by
  cases h
  case function hs _ _ => exact hs c hc
  case other h         => exact h.child hc

theorem formed (h : t.Declared source) : t.Formed := by
  cases h
  case other h => exact h.formed
  case function kind _ _ children hk hc _ hb =>
    have hf : ∀ k ∈ functionKinds, k ∉ tokenKinds ++ literalKinds ∧ k ≠ "return_statement" ∧
        k ≠ "call_expression" ∧ k ≠ "selector_expression" := by decide
    obtain ⟨ht, hr, hcall, hs⟩ := hf kind hk
    have shape : Shape kind children := ⟨(absurd · ht), (absurd · hr), (absurd · hcall), (absurd · hs), fun _ => hb⟩
    exact Shape.formed_of_tidy shape hc

end Declared

-- A file as it is read.
structure IsFile (source : String) (t : Tree) : Prop where
  root     : t.kind = "source_file"
  declared : ∀ c ∈ t.children, c.Declared source

theorem IsFile.formed (h : t.IsFile source) : t.Formed := by
  have shape : Shape t.kind t.children := by
    rw [h.root]
    exact ⟨(absurd · (by decide)), (absurd · (by decide)), (absurd · (by decide)), (absurd · (by decide)),
      (absurd · (by decide))⟩
  refine shape.formed (fun c hc => (h.declared c hc).kind_ne.left) fun c hc => ?_
  exact ⟨(h.declared c hc).kind_ne.right, fun _ => h.root⟩

theorem IsFile.grammatical (h : t.IsFile source) : t.Grammatical := by
  refine ⟨h.root, fun n hn => ?_⟩
  rw [subtrees_eq, List.mem_cons, List.mem_flatMap] at hn
  rcases hn with rfl | ⟨c, hc, hn⟩
  · exact h.formed
  rw [subtrees_eq, List.mem_cons, List.mem_flatMap] at hn
  rcases hn with rfl | ⟨d, hd, hn⟩
  · exact (h.declared n hc).formed
  · exact ((h.declared c hc).child hd).wellFormed n hn

end Go.Tree
end ErrorOrigins
