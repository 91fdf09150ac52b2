import ErrorOrigins.Proofs.Addresses

namespace ErrorOrigins

-- What every site of an audit satisfies: there is a descriptor just for what is a call or a selector, and a
-- site of either kind has an expression.
structure ReturnSite.Described (site : ReturnSite) : Prop where
  kind_none_iff     : site.kind = .none ↔ site.descriptor = ""
  exprPosition_some : site.kind ≠ .none → ∃ p, site.exprPosition = some p

theorem Classification.ofNode_kind_none_iff (n : Node) :
    (ofNode n).kind = .none ↔ (ofNode n).descriptor = "" := by
  cases n <;> simp [ofNode, unknown]
  case call _ callee args => cases callee.calleeName? <;> simp

theorem ReturnSite.ofResults_described (index : Nat) (position : Position) (results : List Node) :
    (ofResults index position results).Described := by
  unfold ofResults
  split
  case h_1 expr _ => exact ⟨Classification.ofNode_kind_none_iff expr, fun _ => ⟨_, rfl⟩⟩
  case h_2        => exact ⟨by simp, by simp⟩

theorem described_of_mem_returnSites {index : Nat} {body : List Node} {site : ReturnSite}
    (h : site ∈ returnSites index body) : site.Described := by
  have ⟨n, _, hn⟩ := List.mem_filterMap.mp h
  cases n <;> simp [ReturnSite.ofNode?] at hn
  case ret => exact hn ▸ ReturnSite.ofResults_described ..

namespace Node

def isReturn : Node → Bool
  | ret _ _ => true
  | _       => false

-- The returns of a forest in pre-order.
def returns (forest : List Node) : List Node :=
  (preorder forest).filter isReturn

@[simp]
theorem returns_nil : returns [] = [] := by
  simp [returns, preorder]

theorem returns_append (forest forest' : List Node) :
    returns (forest ++ forest') = returns forest ++ returns forest' := by
  simp [returns, preorder, walk_append]

theorem returns_cons (n : Node) (rest : List Node) :
    returns (n :: rest) = returns [n] ++ returns rest :=
  returns_append [n] rest

theorem returns_singleton (n : Node) : returns [n] = [n].filter isReturn ++ returns n.children := by
  simp [returns, preorder, walk_cons, within, List.filter_cons]
  split <;> simp

theorem returns_eq_flatMap (forest : List Node) : returns forest = forest.flatMap fun n => returns [n] := by
  induction forest
  case nil              => simp
  case cons n forest hi => rw [returns_cons, hi, List.flatMap_cons]

end Node

theorem returnSites_eq_returns (index : Nat) (body : List Node) :
    returnSites index body = (Node.returns body).filterMap (ReturnSite.ofNode? index) := by
  rw [returnSites, Node.returns, List.filterMap_filter]
  refine List.filterMap_congr fun n _ => ?_
  cases n <;> simp [Node.isReturn, ReturnSite.ofNode?]

namespace ReturnSite

-- The site of a return, told by what the return has in the error position.
structure IsOf (index : Nat) (position : Position) (results : List Node) (site : ReturnSite) : Prop where
  position_eq : site.position = position
  present     : ∀ h : index < results.length,
    site.exprPosition = some results[index].position ∧
    (site.kind, site.descriptor) =
      ((Classification.ofNode results[index]).kind, (Classification.ofNode results[index]).descriptor)
  absent      : results.length ≤ index → site.exprPosition = none ∧ site.kind = .none ∧ site.descriptor = ""

theorem ofResults_isOf (index : Nat) (position : Position) (results : List Node) :
    (ofResults index position results).IsOf index position results where
  position_eq := by unfold ofResults; split <;> rfl
  present h   := by simp [ofResults, h]
  absent h    := by simp [ofResults, h]

theorem ofNode?_eq_some {index : Nat} {n : Node} {site : ReturnSite} (h : ofNode? index n = some site) :
    ∃ position results, n = .ret position results ∧ site = ofResults index position results := by
  cases n <;> simp [ofNode?] at h
  case ret position results => exact ⟨position, results, rfl, h.symm⟩

-- The site at an address, if a return stands there.
def at? (index : Nat) (body : List Node) (a : Address) : Option ReturnSite :=
  (Node.at? body a).bind (ofNode? index)

end ReturnSite

theorem returnSites_eq_filterMap_at? (index : Nat) (body : List Node) :
    returnSites index body = (Node.addresses (fun _ => true) body).filterMap (ReturnSite.at? index body) := by
  have h : (Node.preorder body).filterMap (ReturnSite.ofNode? index) =
      ((Node.preorder body).map some).filterMap (·.bind (ReturnSite.ofNode? index)) := by
    simp [List.filterMap_map]
  rw [returnSites, h, Node.preorder, ← Node.map_at?_addresses, List.filterMap_map]
  rfl

theorem forall₂_filter_filterMap {α β : Type} (f : α → Option β) (l : List α) :
    List.Forall₂ (fun a b => f a = some b) (l.filter fun a => (f a).isSome) (l.filterMap f) := by
  induction l
  case nil => exact .nil
  case cons a l hi => cases h : f a <;> simp [h, hi]

-- The sites of a body stand for the addresses of its returns, all of them, each once and in order.
theorem returnSites_addresses (index : Nat) (body : List Node) :
    ∃ addresses : List Address,
      addresses.Pairwise (List.Lex (· < ·)) ∧
      (∀ a, a ∈ addresses ↔ ∃ position results, Node.at? body a = some (.ret position results)) ∧
      List.Forall₂
        (fun a site => ∃ position results,
          Node.at? body a = some (.ret position results) ∧ site.IsOf index position results)
        addresses (returnSites index body) := by
  let all := Node.addresses (fun _ => true) body
  have hat : ∀ a site, ReturnSite.at? index body a = some site → ∃ position results,
      Node.at? body a = some (.ret position results) ∧ site.IsOf index position results := by
    intro a site h
    have ⟨n, hn, hs⟩ := Option.bind_eq_some_iff.mp h
    have ⟨position, results, hr, ho⟩ := ReturnSite.ofNode?_eq_some hs
    exact ⟨position, results, hr ▸ hn, ho ▸ ReturnSite.ofResults_isOf index position results⟩
  refine ⟨all.filter fun a => (ReturnSite.at? index body a).isSome, ?order, ?complete, ?sites⟩
  case order => exact (Node.addresses_pairwise _ body).filter _
  case sites =>
    rw [returnSites_eq_filterMap_at?]
    exact (forall₂_filter_filterMap _ all).imp hat
  case complete =>
    intro a
    rw [List.mem_filter, Node.mem_addresses_iff]
    constructor
    case mp =>
      intro ⟨_, h⟩
      have ⟨site, hs⟩ := Option.isSome_iff_exists.mp h
      have ⟨position, results, hr, _⟩ := hat a site hs
      exact ⟨position, results, hr⟩
    case mpr =>
      intro ⟨position, results, hr⟩
      exact ⟨⟨⟨_, hr⟩, fun _ _ _ _ _ => rfl⟩, by simp [ReturnSite.at?, hr, ReturnSite.ofNode?]⟩

end ErrorOrigins
