import ErrorOrigins.Proofs.Components

namespace ErrorOrigins

namespace Path

-- The pieces do not end in one that says nothing.
def Solid (pieces : List (List Char)) : Prop :=
  ∀ piece, pieces.getLast? = some piece → ¬isVoid piece

-- The last piece that says something, and what comes before it, up to the piece before that says something.
structure Parts (pieces dir : List (List Char)) (last : List Char) : Prop where
  split : ∃ gap voids, pieces = dir ++ gap ++ last :: voids ∧ (∀ piece ∈ gap, isVoid piece) ∧
    ∀ piece ∈ voids, isVoid piece
  solid : Solid dir
  last  : ¬isVoid last

section Parts

variable {pieces dir gap voids : List (List Char)} {piece last : List Char}

theorem solid_concat (h : ¬isVoid piece) : Solid (pieces ++ [piece]) := by
  intro last hl
  rw [List.getLast?_concat] at hl
  cases hl
  exact h

theorem exists_solid (pieces : List (List Char)) :
    ∃ dir gap, pieces = dir ++ gap ∧ Solid dir ∧ ∀ piece ∈ gap, isVoid piece := by
  induction pieces using List.reverseRecOn
  case nil => exact ⟨[], [], rfl, nofun, nofun⟩
  case append_singleton pieces piece hi =>
    by_cases hp : isVoid piece
    case neg => exact ⟨pieces ++ [piece], [], (List.append_nil _).symm, solid_concat hp, nofun⟩
    case pos =>
      obtain ⟨dir, gap, rfl, hd, hg⟩ := hi
      refine ⟨dir, gap ++ [piece], List.append_assoc _ _ _, hd, ?_⟩
      exact List.forall_mem_append.mpr ⟨hg, List.forall_mem_singleton.mpr hp⟩

theorem exists_parts (h : ∃ piece ∈ pieces, ¬isVoid piece) : ∃ dir last, Parts pieces dir last := by
  obtain ⟨front, voids, rfl, hf, hv⟩ := exists_solid pieces
  obtain rfl | ⟨front, last, rfl⟩ := List.eq_nil_or_concat' front
  case inl =>
    obtain ⟨piece, hm, hp⟩ := h
    exact absurd (hv piece hm) hp
  case inr =>
    obtain ⟨dir, gap, rfl, hd, hg⟩ := exists_solid front
    exact ⟨dir, last, ⟨gap, voids, List.append_assoc _ _ _, hg, hv⟩, hd, hf last List.getLast?_concat⟩

theorem reverse_dropWhile (hd : Solid dir) (hg : ∀ piece ∈ gap, isVoid piece) :
    (dir ++ gap).reverse.dropWhile isVoid = dir.reverse := by
  have hr : ∀ piece ∈ gap.reverse, isVoid piece := fun piece hp => hg piece (List.mem_reverse.mp hp)
  rw [List.reverse_append, List.dropWhile_append_of_pos hr]
  obtain rfl | ⟨front, last, rfl⟩ := List.eq_nil_or_concat' dir
  case inl => rfl
  case inr =>
    have hl := hd last List.getLast?_concat
    rw [List.reverse_append, List.reverse_singleton, List.singleton_append, List.dropWhile_cons_of_neg hl]

theorem reverse_dropWhile_of_void (h : ∀ piece ∈ pieces, isVoid piece) :
    pieces.reverse.dropWhile isVoid = [] :=
  @reverse_dropWhile [] pieces nofun h

-- A piece that says nothing is in front of the last component, unless nothing else is.
theorem Parts.cons (h : Parts pieces dir last) (hp : isVoid piece) :
    Parts (piece :: pieces) (if dir = [] then [] else piece :: dir) last := by
  obtain ⟨⟨gap, voids, rfl, hg, hv⟩, hd, hl⟩ := h
  split
  case isTrue hn =>
    refine ⟨⟨piece :: gap, voids, by simp [hn], List.forall_mem_cons.mpr ⟨hp, hg⟩, hv⟩, nofun, hl⟩
  case isFalse hn =>
    refine ⟨⟨gap, voids, rfl, hg, hv⟩, fun last hm => hd last ?_, hl⟩
    rwa [List.getLast?_cons_of_ne_nil hn] at hm

theorem Parts.noSlash {text : List Char} (h : Parts (List.splitOn '/' text) dir last) :
    ∀ piece ∈ dir, '/' ∉ piece := by
  obtain ⟨⟨gap, voids, hp, -, -⟩, -, -⟩ := h
  intro piece hm
  have hs : piece ∈ List.splitOn '/' text := by
    rw [hp, List.append_assoc]
    exact List.mem_append_left _ hm
  exact (Text.between_of_mem_splitOn hs).solid

theorem namesOf_of_void (h : ∀ piece ∈ pieces, isVoid piece) : namesOf pieces = [] := by
  rw [namesOf, List.map_eq_nil_iff, List.filter_eq_nil_iff]
  intro piece hp
  simp [h piece hp]

theorem namesOf_cons (h : ¬isVoid piece) : namesOf (piece :: pieces) = componentOf piece :: namesOf pieces := by
  simp [namesOf, h]

theorem Parts.namesOf_eq (h : Parts pieces dir last) : namesOf pieces = namesOf dir ++ [componentOf last] := by
  obtain ⟨⟨gap, voids, rfl, hg, hv⟩, -, hl⟩ := h
  rw [namesOf_append, namesOf_append, namesOf_of_void hg, List.append_nil, namesOf_cons hl, namesOf_of_void hv]

theorem Parts.headOf_eq (h : Parts pieces dir last) (hn : dir ≠ []) : headOf dir = headOf pieces := by
  obtain ⟨⟨gap, voids, rfl, hg, hv⟩, hd, hl⟩ := h
  obtain ⟨first, rest, rfl⟩ := List.exists_cons_of_ne_nil hn
  have hr : first = [] → rest ≠ [] := by
    rintro rfl rfl
    exact hd [] rfl rfl
  by_cases hf : first = [] <;> simp_all [headOf]

end Parts

-- How the parent is spelled: as the pieces are, or as the component that is no name.
def parentText (head : List Component) (dir : List (List Char)) : List Char :=
  if dir = [] then headText head.head? else ['/'].intercalate dir

variable {p q : Path} {dir : List (List Char)} {last : List Char}

theorem parent?_of_splitHead {head : Option Component} {body : List Char}
    (hs : splitHead p.text.toList = (head, body)) (h : Parts (List.splitOn '/' body) dir last) :
    p.parent? = some ⟨String.ofList (headText head ++ ['/'].intercalate dir)⟩ := by
  obtain ⟨⟨gap, voids, hp, hg, hv⟩, hd, hl⟩ := h
  have hr : (List.splitOn '/' body).reverse.dropWhile isVoid = last :: (dir ++ gap).reverse := by
    have hr := reverse_dropWhile (@solid_concat (dir ++ gap) last hl) hv
    simpa [hp] using hr
  simp only [parent?, hs, hr, reverse_dropWhile hd hg, List.reverse_reverse]

theorem parent?_of_splitHead_void {head : Option Component} {body : List Char}
    (hs : splitHead p.text.toList = (head, body)) (h : ∀ piece ∈ List.splitOn '/' body, isVoid piece) :
    p.parent? = if head = some .here then some ⟨""⟩ else none := by
  simp only [parent?, hs, reverse_dropWhile_of_void h]

theorem exists_parent (h : ∃ piece ∈ List.splitOn '/' p.text.toList, ¬isVoid piece) :
    ∃ dir last, Parts (List.splitOn '/' p.text.toList) dir last ∧
      p.parent? = some ⟨String.ofList (parentText (headOf (List.splitOn '/' p.text.toList)) dir)⟩ := by
  have hv : isVoid [] := rfl
  have hd : isVoid ['.'] := rfl
  have hs := @parent?_of_splitHead p
  revert h hs
  generalize p.text.toList = text
  fun_cases splitHead text <;> intro h hs
  case case1 rest =>
    have hr := List.splitOn_ne_nil '/' rest
    have hp : List.splitOn '/' ('/' :: rest) = [] :: List.splitOn '/' rest := List.splitOn_append_cons_self [] rest
    have hh : headOf ([] :: List.splitOn '/' rest) = [.root] := by simp [headOf, hr]
    rw [hp, List.exists_mem_cons_iff] at h
    obtain ⟨dir, last, hb⟩ := exists_parts (h.resolve_left (not_not_intro hv))
    refine ⟨_, last, hb.cons hv, ?_⟩
    rw [hs rfl hb, hp, hh]
    by_cases hn : dir = []
    case pos => simp [parentText, hn, headText]
    case neg => simp [parentText, hn, headText, List.intercalate_cons_of_ne_nil hn]
  case case2 =>
    obtain ⟨piece, hm, hp⟩ := h
    rw [List.mem_singleton.mp hm] at hp
    exact absurd hd hp
  case case3 rest =>
    have hp : List.splitOn '/' ('.' :: '/' :: rest) = ['.'] :: List.splitOn '/' rest :=
      List.splitOn_append_cons_self ['.'] rest
    have hh : headOf (['.'] :: List.splitOn '/' rest) = [.here] := rfl
    rw [hp, List.exists_mem_cons_iff] at h
    obtain ⟨dir, last, hb⟩ := exists_parts (h.resolve_left (not_not_intro hd))
    refine ⟨_, last, hb.cons hd, ?_⟩
    rw [hs rfl (hb.cons hv), hp, hh]
    by_cases hn : dir = []
    case pos => simp [parentText, hn, headText]
    case neg => simp [parentText, hn, headText, List.intercalate_cons_of_ne_nil hn]
  case case4 hr hd hh =>
    have hn := headOf_splitOn hr hd hh
    obtain ⟨dir, last, hb⟩ := exists_parts h
    refine ⟨dir, last, hb, ?_⟩
    rw [hs rfl hb, hn]
    by_cases hn : dir = [] <;> simp [parentText, hn, headText]

theorem parent?_of_void (h : ∀ piece ∈ List.splitOn '/' p.text.toList, isVoid piece) :
    p.parent? = if headOf (List.splitOn '/' p.text.toList) = [.here] then some ⟨""⟩ else none := by
  have hs := @parent?_of_splitHead_void p
  revert h hs
  generalize p.text.toList = text
  fun_cases splitHead text <;> intro h hs
  case case1 rest =>
    have hr := List.splitOn_ne_nil '/' rest
    have hp : List.splitOn '/' ('/' :: rest) = [] :: List.splitOn '/' rest := List.splitOn_append_cons_self [] rest
    rw [hp] at h ⊢
    rw [hs rfl (List.forall_mem_cons.mp h).right]
    simp [headOf, hr]
  case case2 => exact hs rfl (List.forall_mem_singleton.mpr rfl)
  case case3 rest =>
    have hp : List.splitOn '/' ('.' :: '/' :: rest) = ['.'] :: List.splitOn '/' rest :=
      List.splitOn_append_cons_self ['.'] rest
    rw [hp] at h
    exact hs rfl (List.forall_mem_cons.mpr ⟨rfl, (List.forall_mem_cons.mp h).right⟩)
  case case4 hr hd hh =>
    rw [hs rfl h, headOf_splitOn hr hd hh]
    rfl

theorem headOf_cases (pieces : List (List Char)) :
    headOf pieces = [.root] ∨ headOf pieces = [.here] ∨ headOf pieces = [] := by
  fun_cases headOf pieces <;> simp

-- A parent has all components but the last.
theorem components_parent (h : p.parent? = some q) : ∃ c, p.components = q.components ++ [c] := by
  by_cases hv : ∃ piece ∈ List.splitOn '/' p.text.toList, ¬isVoid piece
  case pos =>
    obtain ⟨dir, last, hd, hp⟩ := exists_parent hv
    cases hp.symm.trans h
    refine ⟨componentOf last, ?_⟩
    rw [components_eq, components_eq, hd.namesOf_eq, ← List.append_assoc, List.append_cancel_right_eq,
      String.toList_ofList]
    by_cases hn : dir = []
    case neg => rw [parentText, if_neg hn, List.splitOn_intercalate '/' hd.noSlash hn, hd.headOf_eq hn]
    case pos =>
      rw [hn]
      rcases headOf_cases (List.splitOn '/' p.text.toList) with hh | hh | hh <;> rw [hh] <;> rfl
  case neg =>
    have hv : ∀ piece ∈ List.splitOn '/' p.text.toList, isVoid piece := by simpa using hv
    rw [parent?_of_void hv] at h
    split at h
    case isFalse => cases h
    case isTrue hh =>
      cases h
      exact ⟨.here, by rw [components_eq, hh, namesOf_of_void hv]; rfl⟩

theorem length_namesOf_splitOn (text : List Char) : (namesOf (List.splitOn '/' text)).length ≤ text.length := by
  induction text
  case nil => exact Nat.le_refl 0
  case cons c text hi =>
    obtain ⟨first, rest, hp⟩ := List.exists_cons_of_ne_nil (List.splitOn_ne_nil '/' text)
    have hn : ∀ piece, (namesOf (piece :: rest)).length ≤ (namesOf (first :: rest)).length + 1 := by
      intro piece
      have hf : (namesOf rest).length ≤ (namesOf (first :: rest)).length := by
        rw [← List.singleton_append, namesOf_append, List.length_append]
        exact Nat.le_add_left _ _
      by_cases hv : isVoid piece
      case pos =>
        have hr : namesOf (piece :: rest) = namesOf rest := by simp [namesOf, hv]
        rw [hr]
        exact Nat.le_succ_of_le hf
      case neg =>
        rw [namesOf_cons hv]
        exact Nat.succ_le_succ hf
    rw [List.length_cons]
    by_cases hc : c = '/'
    case pos =>
      have hs : namesOf (List.splitOn '/' (c :: text)) = namesOf (List.splitOn '/' text) := by
        have hs : List.splitOn '/' ('/' :: text) = [] :: List.splitOn '/' text := List.splitOn_append_cons_self [] text
        rw [hc, hs]
        rfl
      rw [hs]
      exact Nat.le_succ_of_le hi
    case neg =>
      rw [hp] at hi
      rw [List.splitOn_cons_eq_if_modifyHead, if_neg (by simpa using hc), hp]
      exact Nat.le_trans (hn (c :: first)) (Nat.succ_le_succ hi)

theorem length_components (p : Path) : p.components.length ≤ p.text.length := by
  have hb : p.text.length = p.text.toList.length := rfl
  rw [components, hb]
  generalize p.text.toList = text
  have hn := length_namesOf_splitOn (splitHead text).2
  revert hn
  fun_cases splitHead text <;> intro hn <;> simpa [namesOf] using hn

theorem length_components_parent (h : p.parent? = some q) : p.components.length = q.components.length + 1 := by
  obtain ⟨c, hc⟩ := components_parent h
  rw [hc, List.length_append, List.length_singleton]

theorem parent_induction {motive : Path → Prop}
    (step : ∀ p, (∀ q, p.parent? = some q → motive q) → motive p) (p : Path) : motive p := by
  induction hn : p.components.length using Nat.strongRecOn generalizing p
  case ind n hi =>
    refine step p fun q hq => hi q.components.length ?_ q rfl
    have hl := length_components_parent hq
    omega

theorem ancestors_go_of_none (h : p.parent? = none) (n : Nat) : ancestors.go n p = [] := by
  cases n
  case zero => rfl
  case succ => rw [ancestors.go, h]

theorem ancestors_go_of_some {n : Nat} (h : p.parent? = some q) (hn : p.components.length ≤ n) :
    ancestors.go n p = q :: ancestors.go (n - 1) q := by
  have hl := length_components_parent h
  obtain ⟨m, rfl⟩ : ∃ m, n = m + 1 := ⟨n - 1, by omega⟩
  rw [ancestors.go, h]
  rfl

-- Every parent has one component less, so a bound for the number of components lets all ancestors be found.
theorem ancestors_go_congr {n m : Nat} (hn : p.components.length ≤ n) (hm : p.components.length ≤ m) :
    ancestors.go n p = ancestors.go m p := by
  induction p using parent_induction generalizing n m
  case step p hi =>
    cases hp : p.parent?
    case none => rw [ancestors_go_of_none hp, ancestors_go_of_none hp]
    case some q =>
      have hl := length_components_parent hp
      rw [ancestors_go_of_some hp hn, ancestors_go_of_some hp hm]
      exact congrArg (q :: ·) (hi q hp (by omega) (by omega))

-- The ancestors of a path are the path itself and the ancestors of its parent.
theorem ancestors_eq (p : Path) : p.ancestors = p :: (p.parent?.map ancestors).getD [] := by
  have hl := length_components p
  rw [ancestors]
  cases hp : p.parent?
  case none => rw [ancestors_go_of_none hp]; rfl
  case some q =>
    have hq := length_components_parent hp
    rw [ancestors_go_of_some hp hl, ancestors_go_congr (by omega) (length_components q)]
    rfl

end Path
end ErrorOrigins
