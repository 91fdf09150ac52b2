import ErrorOrigins.Audit.Site
import Mathlib.Data.List.Forall2

namespace ErrorOrigins

-- A way down a forest: the place of a tree in it, then of one of its parts, and so on.
abbrev Address := List Nat

namespace Node

variable {descend : Node → Bool} {n m : Node} {forest rest : List Node} {a b : Address}

def at? (forest : List Node) : Address → Option Node
  | []          => none
  | [i]         => forest[i]?
  | i :: j :: a => forest[i]?.bind fun n => at? n.children (j :: a)

@[simp]
theorem at?_nil (forest : List Node) : at? forest [] = none := rfl

@[simp]
theorem at?_empty (a : Address) : at? [] a = none := by
  cases a using at?.fun_cases <;> simp [at?]

@[simp]
theorem at?_zero (n : Node) (rest : List Node) : at? (n :: rest) [0] = some n := rfl

theorem at?_zero_cons (n : Node) (rest : List Node) (h : a ≠ []) :
    at? (n :: rest) (0 :: a) = at? n.children a := by
  cases a
  case nil  => contradiction
  case cons => rfl

-- The address of the same node once a tree is put in front of the forest.
def shift (a : Address) : Address :=
  a.modifyHead (· + 1)

@[simp]
theorem at?_shift (n : Node) (rest : List Node) (a : Address) : at? (n :: rest) (shift a) = at? rest a := by
  cases a using at?.fun_cases <;> simp [shift, at?]

theorem shift_injective : Function.Injective shift := by
  intro a b h
  cases a <;> cases b <;> simp_all [shift]

@[simp]
theorem shift_ne_zero_cons (a b : Address) : shift a ≠ 0 :: b := by
  cases a <;> simp [shift]

-- An address leads to the first tree, to a part of it, or to one of the trees behind.
theorem address_cases (a : Address) :
    a = [] ∨ a = [0] ∨ (∃ b, b ≠ [] ∧ a = 0 :: b) ∨ ∃ b, b ≠ [] ∧ a = shift b := by
  match a with
  | []             => simp
  | [0]            => simp
  | 0 :: i :: b    => exact .inr <| .inr <| .inl ⟨i :: b, by simp, rfl⟩
  | (i + 1) :: b   => exact .inr <| .inr <| .inr ⟨i :: b, by simp, rfl⟩

theorem walk_append (descend : Node → Bool) (forest forest' : List Node) :
    walk descend (forest ++ forest') = walk descend forest ++ walk descend forest' := by
  match forest with
  | []        => simp
  | n :: rest =>
    have hi := walk_append descend (n.within descend ++ rest) forest'
    rw [List.cons_append, walk_cons, walk_cons, ← List.append_assoc, hi, List.cons_append]
termination_by sizes forest
decreasing_by exact sizes_within_lt descend n rest

theorem sizes_parts_lt (descend : Node → Bool) (n : Node) (rest : List Node) :
    sizes (n.within descend) < sizes (n :: rest) ∧ sizes rest < sizes (n :: rest) := by
  have h := sizes_within_lt descend n rest
  rw [sizes_append] at h
  omega

def addresses (descend : Node → Bool) : List Node → List Address
  | []        => []
  | n :: rest =>
    [0] :: (addresses descend (n.within descend)).map (0 :: ·) ++ (addresses descend rest).map shift
termination_by forest => sizes forest
decreasing_by
  · exact (sizes_parts_lt _ n rest).left
  · exact (sizes_parts_lt (fun _ => true) n rest).right

theorem nil_not_mem_addresses (descend : Node → Bool) (forest : List Node) :
    [] ∉ addresses descend forest := by
  fun_induction addresses descend forest
  case case1 => simp
  case case2 n rest _ hi =>
    intro h
    simp at h
    have ⟨b, hb, hs⟩ := h
    cases b
    case nil  => exact hi hb
    case cons => simp [shift] at hs

theorem ne_nil_of_mem_addresses (h : a ∈ addresses descend forest) : a ≠ [] :=
  fun hn => nil_not_mem_addresses descend forest (hn ▸ h)

-- Below a node the walk sees all of its parts or none.
theorem map_at?_within (descend : Node → Bool) (n : Node) :
    (addresses descend (n.within descend)).map (at? n.children) =
      (addresses descend (n.within descend)).map (at? (n.within descend)) := by
  cases h : descend n <;> simp [within, addresses, h]

theorem map_at?_addresses (descend : Node → Bool) (forest : List Node) :
    (addresses descend forest).map (at? forest) = (walk descend forest).map some := by
  fun_induction addresses descend forest
  case case1 => simp
  case case2 n rest hw hr =>
    have hz : ((addresses descend (n.within descend)).map (0 :: ·)).map (at? (n :: rest)) =
        (walk descend (n.within descend)).map some := by
      rw [← hw, ← map_at?_within, List.map_map]
      refine List.map_congr_left fun a ha => ?_
      exact at?_zero_cons n rest (ne_nil_of_mem_addresses ha)
    have hs : ((addresses descend rest).map shift).map (at? (n :: rest)) = (walk descend rest).map some := by
      rw [← hr, List.map_map]
      exact List.map_congr_left fun a _ => at?_shift n rest a
    rw [walk_cons, walk_append]
    simp only [List.cons_append, List.map_cons, List.map_append, at?_zero, hz, hs]

theorem lex_shift (h : List.Lex (· < ·) a b) : List.Lex (· < ·) (shift a) (shift b) := by
  cases h
  case nil    => exact .nil
  case cons h => exact .cons h
  case rel h  => exact .rel (Nat.succ_lt_succ h)

theorem addresses_pairwise (descend : Node → Bool) (forest : List Node) :
    (addresses descend forest).Pairwise (List.Lex (· < ·)) := by
  fun_induction addresses descend forest
  case case1 => exact .nil
  case case2 n rest hw hr =>
    -- The tree itself comes first, then its parts, then the trees behind it.
    refine List.pairwise_append.mpr ⟨List.pairwise_cons.mpr ⟨?first, ?parts⟩, ?behind, ?cross⟩
    case parts  => exact hw.map _ fun _ _ => .cons
    case behind => exact hr.map _ fun _ _ => lex_shift
    case first =>
      intro a ha
      have ⟨b, hb, he⟩ := List.mem_map.mp ha
      have ⟨i, c, hc⟩ := List.exists_cons_of_ne_nil (ne_nil_of_mem_addresses hb)
      rw [← he, hc]
      exact .cons .nil
    case cross =>
      intro a ha b hb
      have ⟨c, hc, he⟩ := List.mem_map.mp hb
      have ⟨i, c', hc'⟩ := List.exists_cons_of_ne_nil (ne_nil_of_mem_addresses hc)
      have ⟨d, hd⟩ : ∃ d, a = 0 :: d := by
        cases ha
        case head    => exact ⟨[], rfl⟩
        case tail ha => exact (List.mem_map.mp ha).imp fun _ h => h.right.symm
      rw [← he, hc', hd]
      exact .rel (Nat.succ_pos i)

-- A walk gets to an address if it leads to a node and no node above that one is refused.
structure Reached (descend : Node → Bool) (forest : List Node) (a : Address) : Prop where
  exists_node   : ∃ n, at? forest a = some n
  descend_above : ∀ b m, b <+: a → b ≠ a → at? forest b = some m → descend m

theorem reached_zero (descend : Node → Bool) (n : Node) (rest : List Node) :
    Reached descend (n :: rest) [0] where
  exists_node := ⟨n, rfl⟩
  descend_above b m hb hne hm := by
    cases List.prefix_cons_iff.mp hb
    case inl h => simp [h] at hm
    case inr h => simp_all

-- Above a part of the first tree stand that tree and what stands above the part in it.
theorem reached_zero_cons (ha : a ≠ []) :
    Reached descend (n :: rest) (0 :: a) ↔ descend n ∧ Reached descend n.children a where
  mp h := by
    refine ⟨h.descend_above [0] n (by simp) (by simpa using ha.symm) rfl, ?_, fun b m hb hne hm => ?_⟩
    · simpa [at?_zero_cons n rest ha] using h.exists_node
    · have hn : b ≠ [] := by intro hn; simp [hn] at hm
      rw [← at?_zero_cons n rest hn] at hm
      exact h.descend_above (0 :: b) m (by simpa using hb) (by simpa using hne) hm
  mpr h := by
    refine ⟨?_, fun b m hb hne hm => ?_⟩
    · simpa [at?_zero_cons n rest ha] using h.right.exists_node
    · cases List.prefix_cons_iff.mp hb
      case inl h => simp [h] at hm
      case inr hp =>
        have ⟨c, he, hc⟩ := hp
        subst he
        by_cases hn : c = []
        case pos => simp_all
        case neg =>
          rw [at?_zero_cons n rest hn] at hm
          exact h.right.descend_above c m hc (by simpa using hne) hm

theorem reached_within (ha : a ≠ []) :
    Reached descend (n :: rest) (0 :: a) ↔ Reached descend (n.within descend) a := by
  rw [reached_zero_cons ha, within]
  cases h : descend n
  case true  => simp
  case false => simpa using fun hr : Reached descend [] a => by simpa using hr.exists_node

theorem prefix_shift_iff : b <+: shift a ↔ ∃ c, b = shift c ∧ c <+: a := by
  rcases a with _ | ⟨i, a⟩
  case nil => simp [shift]
  case cons =>
    constructor <;> intro h
    case mp =>
      cases List.prefix_cons_iff.mp h
      case inl h => exact ⟨[], by simp [h, shift], by simp⟩
      case inr h =>
        have ⟨c, hb, hc⟩ := h
        exact ⟨i :: c, hb, by simpa using hc⟩
    case mpr =>
      have ⟨c, hb, hc⟩ := h
      cases List.prefix_cons_iff.mp hc
      case inl h => simp [hb, h, shift]
      case inr h =>
        have ⟨d, hd, h⟩ := h
        simpa [hb, hd, shift] using h

theorem reached_shift : Reached descend (n :: rest) (shift a) ↔ Reached descend rest a where
  mp h := by
    refine ⟨by simpa using h.exists_node, fun b m hb hne hm => ?_⟩
    refine h.descend_above (shift b) m (prefix_shift_iff.mpr ⟨b, rfl, hb⟩) ?_ (by simpa using hm)
    exact shift_injective.ne hne
  mpr h := by
    refine ⟨by simpa using h.exists_node, fun b m hb hne hm => ?_⟩
    have ⟨c, hc, hp⟩ := prefix_shift_iff.mp hb
    subst hc
    exact h.descend_above c m hp (fun he => hne (he ▸ rfl)) (by simpa using hm)

theorem not_reached_nil : ¬Reached descend forest [] :=
  fun h => by simpa using h.exists_node

theorem mem_addresses_iff : a ∈ addresses descend forest ↔ Reached descend forest a := by
  fun_induction addresses descend forest generalizing a
  case case1 => simpa using fun h : Reached descend [] a => by simpa using h.exists_node
  case case2 n rest hw hr =>
    have hn := nil_not_mem_addresses descend (n :: rest)
    rw [addresses] at hn
    -- The cases are those of the definition, so each is an induction hypothesis or trivial.
    rcases address_cases a with rfl | rfl | ⟨b, hb, rfl⟩ | ⟨b, hb, rfl⟩
    · exact iff_of_false hn not_reached_nil
    · exact iff_of_true (by simp) (reached_zero ..)
    · rw [reached_within hb, ← hw]
      simp [hb]
    · rw [reached_shift, ← hr]
      simp [shift_injective.eq_iff, (shift_ne_zero_cons _ _).symm]

end Node
end ErrorOrigins
