import ErrorOrigins.Proofs.Lookup

namespace ErrorOrigins.Path

-- The component that is no name, told by the pieces of the text. A text of one empty piece is empty.
def headOf : List (List Char) → List Component
  | []            => []
  | first :: rest =>
    if first = ['.'] then [.here]
    else if first = [] ∧ rest ≠ [] then [.root]
    else []

def namesOf (pieces : List (List Char)) : List Component :=
  (pieces.filter (!isVoid ·)).map componentOf

theorem headOf_splitOn {text : List Char} (hr : ∀ rest, text ≠ '/' :: rest) (hd : text ≠ ['.'])
    (hh : ∀ rest, text ≠ '.' :: '/' :: rest) : headOf (List.splitOn '/' text) = [] := by
  rcases text with _ | ⟨c, _ | ⟨d, rest⟩⟩
  case nil => rfl
  case cons.nil =>
    have hc : c ≠ '/' := fun h => hr [] (by rw [h])
    have hn : c ≠ '.' := fun h => hd (by rw [h])
    simp [List.splitOn_cons_eq_if_modifyHead, headOf, hc, hn]
  case cons.cons =>
    have hc : c ≠ '/' := fun h => hr (d :: rest) (by rw [h])
    by_cases hs : d = '/'
    case pos =>
      have hn : c ≠ '.' := fun h => hh rest (by rw [h, hs])
      simp [List.splitOn_cons_eq_if_modifyHead, headOf, hc, hs, hn]
    case neg =>
      obtain ⟨piece, pieces, hp⟩ := List.exists_cons_of_ne_nil (List.splitOn_ne_nil '/' rest)
      simp [List.splitOn_cons_eq_if_modifyHead, headOf, hc, hs, hp]

theorem components_eq (p : Path) :
    p.components = headOf (List.splitOn '/' p.text.toList) ++ namesOf (List.splitOn '/' p.text.toList) := by
  rw [components]
  generalize p.text.toList = text
  fun_cases splitHead text
  case case1 rest =>
    have hs := List.splitOn_ne_nil '/' rest
    simp [List.splitOn_cons_eq_if_modifyHead, headOf, namesOf, isVoid, hs]
  case case2      => decide
  case case3 rest => simp [List.splitOn_cons_eq_if_modifyHead, headOf, namesOf, isVoid]
  case case4 hr hd hh =>
    rw [headOf_splitOn hr hd hh]
    rfl

theorem headOf_append {pieces : List (List Char)} (hp : pieces ≠ []) (hn : pieces ≠ [[]]) (more : List (List Char)) :
    headOf (pieces ++ more) = headOf pieces := by
  cases pieces
  case nil => exact absurd rfl hp
  case cons first rest =>
    have hf : first = [] → rest ≠ [] := fun h hr => hn (by rw [h, hr])
    by_cases h : first = [] <;> simp_all [headOf]

theorem headOf_append_congr {pieces more more' : List (List Char)} (hp : pieces ≠ []) (hm : more ≠ [])
    (hm' : more' ≠ []) : headOf (pieces ++ more) = headOf (pieces ++ more') := by
  cases pieces
  case nil  => exact absurd rfl hp
  case cons => simp [headOf, hm, hm']

theorem namesOf_append (pieces pieces' : List (List Char)) :
    namesOf (pieces ++ pieces') = namesOf pieces ++ namesOf pieces' := by
  rw [namesOf, List.filter_append, List.map_append]
  rfl

theorem ne_head_of_mem_namesOf {pieces : List (List Char)} {c : Component} (h : c ∈ namesOf pieces) :
    c ≠ .root ∧ c ≠ .here := by
  obtain ⟨piece, -, rfl⟩ := List.mem_map.mp h
  rw [componentOf]
  split <;> simp

variable {p q : Path} {text name : String} {way : List String}

theorem splitOn_ne_void (hp : p.text ≠ "") : List.splitOn '/' p.text.toList ≠ [[]] := by
  intro h
  have hj : ['/'].intercalate (List.splitOn '/' p.text.toList) = p.text.toList := List.intercalate_splitOn '/'
  rw [h] at hj
  exact hp (String.toList_eq_nil_iff.mp hj.symm)

-- A text that is not absolute adds what its pieces say.
theorem components_join_text (hp : p.text ≠ "") (ht : ¬isAbsolute text) :
    (p.join text).components = p.components ++ namesOf (List.splitOn '/' text.toList) := by
  have hs := List.splitOn_ne_nil '/' p.text.toList
  have ht' := List.splitOn_ne_nil '/' text.toList
  rw [components_eq, components_eq, join, if_neg ht]
  split
  case isTrue hl =>
    rw [Bool.or_eq_true, decide_eq_true_eq, decide_eq_true_eq, List.getLast?_eq_some_iff] at hl
    obtain ⟨front, hf⟩ := hl.resolve_left hp
    have hf' := List.splitOn_ne_nil '/' front
    have hj : List.splitOn '/' (p.text ++ text).toList = List.splitOn '/' front ++ List.splitOn '/' text.toList := by
      simp [hf, List.splitOn_append_cons_self]
    have hb : List.splitOn '/' p.text.toList = List.splitOn '/' front ++ [[]] := by
      rw [hf, List.splitOn_append_cons_self]
      rfl
    have hn : namesOf (List.splitOn '/' front ++ [[]]) = namesOf (List.splitOn '/' front) := by
      rw [namesOf_append]
      exact List.append_nil _
    rw [hj, hb, hn, namesOf_append, headOf_append_congr hf' ht' (List.cons_ne_nil [] []), List.append_assoc]
  case isFalse =>
    have hj : List.splitOn '/' (p.text ++ "/" ++ text).toList =
        List.splitOn '/' p.text.toList ++ List.splitOn '/' text.toList := by
      simp [List.splitOn_append_cons_self]
    rw [hj, headOf_append hs (splitOn_ne_void hp), namesOf_append, List.append_assoc]

theorem components_join (hv : ValidName name) : (p.join name).components = p.components ++ [.name name] := by
  have ha := isAbsolute_of_noSlash hv.noSlash
  have hn : name.toList ≠ [] := by simpa using hv.nonempty
  have hh : name.toList ≠ ['.'] := fun h => hv.notHere (String.toList_inj.mp h)
  have hu : name.toList ≠ ['.', '.'] := fun h => hv.notUp (String.toList_inj.mp h)
  have hs : List.splitOn '/' name.toList = [name.toList] := List.splitOn_eq_singleton hv.noSlash
  have hc : namesOf [name.toList] = [.name name] := by simp [namesOf, isVoid, hn, hh, componentOf, hu]
  by_cases hp : p.text = ""
  case pos =>
    have hj : p.join name = ⟨name⟩ := by simp [join, ha, hp]
    have he : p = ⟨""⟩ := by cases p; simpa using hp
    have hn : headOf [name.toList] = [] := by simp [headOf, hh]
    rw [hj, he, components_eq, hs, hc, hn]
    rfl
  case neg => rw [components_join_text hp ha, hs, hc]

theorem components_below (hw : ∀ name ∈ way, ValidName name) :
    (p.below way).components = p.components ++ way.map .name := by
  induction way using List.reverseRecOn
  case nil => exact (List.append_nil _).symm
  case append_singleton way name hi =>
    obtain ⟨hw, hn⟩ := List.forall_mem_append.mp hw
    rw [below_concat, components_join (hn name List.mem_cons_self), hi hw]
    simp

end ErrorOrigins.Path
