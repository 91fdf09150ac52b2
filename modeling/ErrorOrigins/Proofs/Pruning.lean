import ErrorOrigins.Proofs.Addresses
import Mathlib.Data.List.Lex
import Mathlib.Data.List.Sort

namespace ErrorOrigins.Node

-- The first address is that of a node around the one at the second.
def Above (a b : Address) : Prop :=
  a <+: b ∧ a ≠ b

instance (a b : Address) : Decidable (Above a b) :=
  inferInstanceAs (Decidable (a <+: b ∧ a ≠ b))

section Visiting

variable {descend descend' : Node → Bool} {forest : List Node} {a b c : Address} {visited visited' : List Address}

-- What is at an address or below it is not above an address that is not below.
theorem not_prefix_of_above (h : ¬Above a b) (hc : Above c b) : ¬a <+: c := by
  intro hp
  refine h ⟨hp.trans hc.left, ?_⟩
  rintro rfl
  exact hc.right (hc.left.eq_of_length_le hp.length_le)

-- The addresses of the nodes that a walk lists: all that it can get to, each of them once and in order.
structure Visits (descend : Node → Bool) (forest : List Node) (visited : List Address) : Prop where
  nodes   : visited.map (at? forest) = (walk descend forest).map some
  ordered : visited.Pairwise (List.Lex (· < ·))
  reached : ∀ a, a ∈ visited ↔ Reached descend forest a

theorem visits_addresses (descend : Node → Bool) (forest : List Node) :
    Visits descend forest (addresses descend forest) where
  nodes     := map_at?_addresses descend forest
  ordered   := addresses_pairwise descend forest
  reached _ := mem_addresses_iff

namespace Visits

theorem nodup (h : Visits descend forest visited) : visited.Nodup :=
  h.ordered.nodup

theorem not_mem_of_refused (h : Visits descend forest visited) {n : Node} (hn : at? forest a = some n)
    (hr : ¬descend n) (hb : Above a b) : b ∉ visited := by
  intro hm
  exact hr (((h.reached b).mp hm).descend_above a n hb.left hb.right hn)

-- Two walks that agree above an address both get there, or neither does.
theorem mem_of_agree (h : Visits descend forest visited) (h' : Visits descend' forest visited')
    (ha : ∀ c n, Above c b → at? forest c = some n → descend n = descend' n) (hm : b ∈ visited) : b ∈ visited' := by
  obtain ⟨hn, hd⟩ := (h.reached b).mp hm
  refine (h'.reached b).mpr ⟨hn, fun c n hp hne hn => ?_⟩
  rw [← ha c n ⟨hp, hne⟩ hn]
  exact hd c n hp hne hn

theorem filter_eq (h : Visits descend forest visited) (h' : Visits descend' forest visited')
    (ha : ∀ c n, ¬a <+: c → at? forest c = some n → descend n = descend' n) :
    (visited.filter fun b => ¬Above a b) = visited'.filter fun b => ¬Above a b := by
  refine (h.ordered.filter _).eq_of_mem_iff (h'.ordered.filter _) fun b => ?_
  simp only [List.mem_filter, decide_eq_true_eq]
  refine and_congr_left fun hb => ⟨h.mem_of_agree h' ?_, h'.mem_of_agree h ?_⟩
  · exact fun c n hc => ha c n (not_prefix_of_above hb hc)
  · exact fun c n hc hn => (ha c n (not_prefix_of_above hb hc) hn).symm

end Visits

end Visiting

-- A walk lists the nodes at exactly those addresses above which no node is refused, each once and in order. A refused
-- node that it gets to is listed, nothing below a refused node is, and what it lists outside of a subtree does not
-- depend on what is refused in it.
theorem walk_pruned (descend : Node → Bool) (forest : List Node) :
    ∃ visited, Visits descend forest visited ∧ visited.Nodup ∧
      (∀ a n, Reached descend forest a → at? forest a = some n → ¬descend n →
        a ∈ visited ∧ ∀ b, Above a b → b ∉ visited) ∧
      ∀ descend' visited', Visits descend' forest visited' → ∀ a,
        (∀ b n, ¬a <+: b → at? forest b = some n → descend n = descend' n) →
          (visited.filter fun b => ¬Above a b) = visited'.filter fun b => ¬Above a b := by
  have h := visits_addresses descend forest
  refine ⟨_, h, h.nodup, fun a n ha hn hr => ⟨(h.reached a).mpr ha, fun b => ?_⟩, fun _ _ h' a => h.filter_eq h'⟩
  exact h.not_mem_of_refused hn hr

namespace SampleForest

def forest : List Node :=
  [.other ⟨1, 1⟩ "block" [.ret ⟨2, 1⟩ []], .ret ⟨3, 1⟩ []]

-- Goes into everything but blocks.
def unlessBlock : Node → Bool
  | .other _ _ _ => false
  | _            => true

theorem at?_behind {a : Address} {n : Node} (h : ¬[0] <+: a) (hn : at? forest a = some n) : n = .ret ⟨3, 1⟩ [] := by
  rcases address_cases a with rfl | rfl | ⟨b, -, rfl⟩ | ⟨b, -, rfl⟩
  · cases hn
  · exact absurd (List.prefix_refl _) h
  · exact absurd (List.prefix_append [0] b) h
  · rw [forest, at?_shift] at hn
    rcases address_cases b with rfl | rfl | ⟨c, hc, rfl⟩ | ⟨c, -, rfl⟩
    · cases hn
    · exact (Option.some.inj hn).symm
    · rw [at?_zero_cons _ _ hc] at hn
      simp [children] at hn
    · simp at hn

end SampleForest

open SampleForest in
-- The block is visited and the return in it is not. The return behind the block is visited as in the whole walk.
theorem walk_pruned_block :
    ∃ visited, Visits unlessBlock forest visited ∧ [0] ∈ visited ∧ [0, 0] ∉ visited ∧
      (visited.filter fun b => ¬Above [0] b) =
        (addresses (fun _ => true) forest).filter fun b => ¬Above [0] b := by
  obtain ⟨visited, hv, -, hr, hf⟩ := walk_pruned unlessBlock forest
  have ha : Reached unlessBlock forest [0] := reached_zero unlessBlock _ _
  obtain ⟨hm, hb⟩ := hr [0] (.other ⟨1, 1⟩ "block" [.ret ⟨2, 1⟩ []]) ha rfl (by decide)
  refine ⟨visited, hv, hm, hb [0, 0] (by decide), hf _ _ (visits_addresses _ _) [0] fun b n hb hn => ?_⟩
  rw [at?_behind hb hn]
  rfl

end ErrorOrigins.Node
