import ErrorOrigins.Proofs.Collecting
import ErrorOrigins.Proofs.Loading

namespace ErrorOrigins

namespace Findings

theorem merge_ofOrigins (origins origins' : List Origin) :
    (ofOrigins origins).merge (ofOrigins origins') = .ok (ofOrigins (origins ++ origins')) :=
  rfl

-- The invariant of the merging fold: what is merged so far has both counters at zero.
theorem foldlM_merge_ofOrigins (origins : List Origin) (parts : List (List Origin)) :
    (parts.map ofOrigins).foldlM merge (ofOrigins origins) = .ok (ofOrigins (origins ++ parts.flatten)) := by
  induction parts generalizing origins
  case nil => simp
  case cons part parts hi =>
    rw [List.map_cons, List.foldlM_cons, merge_ofOrigins]
    have h := hi (origins ++ part)
    rw [List.append_assoc] at h
    exact h

theorem mergeAll_ofOrigins (parts : List (List Origin)) :
    mergeAll (parts.map ofOrigins) = .ok (ofOrigins parts.flatten) :=
  foldlM_merge_ofOrigins [] parts

end Findings

theorem mergeAll_collect (trees : List SourceTree) :
    Findings.mergeAll (trees.map fun t => collect [t]) = .ok (collect trees) := by
  have hc : (trees.map fun t => collect [t]) = (trees.map (·.origins)).map Findings.ofOrigins := by
    simp [collect_eq]
  rw [hc, Findings.mergeAll_ofOrigins, collect_eq, List.flatMap_def]

theorem audit_eq (shares : Shares) (parallel : Bool) (trees : List SourceTree) :
    audit shares parallel trees = .ok (collect trees) := by
  cases parallel
  case false => rfl
  case true  =>
    have hs := shares.collect_eq (f := List.map fun t => collect [t]) (fun _ => rfl)
      (fun _ => List.map_flatten.symm) trees
    rw [audit, if_pos rfl, hs]
    exact mergeAll_collect trees

end ErrorOrigins
