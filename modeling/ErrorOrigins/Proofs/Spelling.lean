import ErrorOrigins.Proofs.Parents
import ErrorOrigins.Proofs.Selecting
import Mathlib.Data.List.DropRight

namespace ErrorOrigins

namespace Path

-- The pieces of a path in front of its last component, without those at their end that say nothing.
def dirPieces (p : Path) : List (List Char) :=
  ((List.splitOn '/' p.text.toList).rdropWhile isVoid).dropLast.rdropWhile isVoid

variable {p q : Path} {dir : List (List Char)} {last : List Char}

theorem rdropWhile_isVoid {gap : List (List Char)} (hd : Solid dir) (hg : ∀ piece ∈ gap, isVoid piece) :
    (dir ++ gap).rdropWhile isVoid = dir := by
  have hr : (dir ++ gap).rdropWhile isVoid = ((dir ++ gap).reverse.dropWhile isVoid).reverse := rfl
  rw [hr, reverse_dropWhile hd hg, List.reverse_reverse]

theorem Parts.dirPieces_eq (h : Parts (List.splitOn '/' p.text.toList) dir last) : p.dirPieces = dir := by
  obtain ⟨⟨gap, voids, hp, hg, hv⟩, hd, hl⟩ := h
  have hf : (List.splitOn '/' p.text.toList).rdropWhile isVoid = dir ++ gap ++ [last] := by
    rw [hp, List.append_cons]
    exact rdropWhile_isVoid (solid_concat hl) hv
  rw [dirPieces, hf, List.dropLast_concat, rdropWhile_isVoid hd hg]

theorem dirPieces_of_void (h : ∀ piece ∈ List.splitOn '/' p.text.toList, isVoid piece) : p.dirPieces = [] := by
  have hf := @rdropWhile_isVoid [] _ nofun h
  rw [List.nil_append] at hf
  rw [dirPieces, hf]
  rfl

theorem components_head?_eq_here :
    p.components.head? = some .here ↔ headOf (List.splitOn '/' p.text.toList) = [.here] := by
  have hn : ∀ pieces, (namesOf pieces).head? ≠ some .here :=
    fun pieces hh => (ne_head_of_mem_namesOf (List.mem_of_head? hh)).right rfl
  rw [components_eq]
  rcases headOf_cases (List.splitOn '/' p.text.toList) with h | h | h <;> simp [h, hn]

end Path

namespace Excludes

open ErrorOrigins.Path

variable {p q : Path}

-- Without pieces, the directory is the root or the current one.
theorem dirOf_eq (p : Path) :
    dirOf p =
      if p.dirPieces = [] then if p.components.dropLast = [.root] then "/" else "."
      else String.ofList (['/'].intercalate p.dirPieces) := by
  by_cases hv : ∃ piece ∈ List.splitOn '/' p.text.toList, ¬isVoid piece
  case pos =>
    obtain ⟨dir, last, hd, hp⟩ := exists_parent hv
    rw [dirOf, hp, hd.dirPieces_eq, components_eq, hd.namesOf_eq, ← List.append_assoc, List.dropLast_concat, parentText]
    by_cases hn : dir = []
    case pos =>
      rw [hn]
      rcases headOf_cases (List.splitOn '/' p.text.toList) with hh | hh | hh <;> rw [hh] <;> rfl
    case neg =>
      have ht : String.ofList (['/'].intercalate dir) ≠ "" := by
        intro he
        have hs := List.splitOn_intercalate '/' hd.noSlash hn
        rw [String.ofList_eq_empty_iff.mp he] at hs
        exact hd.solid [] (hs ▸ rfl) rfl
      simp only [if_neg hn, if_neg ht]
  case neg =>
    have hv : ∀ piece ∈ List.splitOn '/' p.text.toList, isVoid piece := by simpa using hv
    rw [dirOf, parent?_of_void hv, dirPieces_of_void hv, components_eq, namesOf_of_void hv, List.append_nil]
    rcases headOf_cases (List.splitOn '/' p.text.toList) with hh | hh | hh <;> rw [hh] <;> rfl

theorem bare_of_ne {text : String} (h : ∀ rest, text.toList ≠ '.' :: '/' :: rest) : bare text = text := by
  unfold bare
  split
  case h_1 rest ht => exact absurd ht (h rest)
  case h_2         => rfl

theorem bare_dotSlash (text : List Char) : bare (String.ofList ('.' :: '/' :: text)) = String.ofList text := by
  simp [bare]

-- What patterns see of some pieces is all of them, less a dot at their beginning.
theorem splitOn_bare {dir : List (List Char)} (hn : dir ≠ []) (hs : ∀ piece ∈ dir, '/' ∉ piece) (hd : Solid dir) :
    ∃ seen, List.splitOn '/' (bare (String.ofList (['/'].intercalate dir))).toList = seen ∧ Solid seen ∧
      dir = (if headOf dir = [.here] then [['.']] else []) ++ seen := by
  have ht := List.splitOn_intercalate '/' hs hn
  obtain ⟨first, rest, rfl⟩ := List.exists_cons_of_ne_nil hn
  by_cases hf : first = ['.']
  case pos =>
    subst hf
    have hr : rest ≠ [] := by
      rintro rfl
      exact hd ['.'] rfl rfl
    have hl : Solid rest := fun piece hp => hd piece (List.getLast?_cons_of_ne_nil hr ▸ hp)
    have hb : bare (String.ofList (['/'].intercalate (['.'] :: rest))) = String.ofList (['/'].intercalate rest) := by
      rw [List.intercalate_cons_of_ne_nil hr]
      exact bare_dotSlash _
    have hh : headOf (['.'] :: rest) = [.here] := by rw [headOf, if_pos rfl]
    refine ⟨rest, ?_, hl, by rw [if_pos hh, List.singleton_append]⟩
    rw [hb, String.toList_ofList]
    exact List.splitOn_intercalate '/' (List.forall_mem_cons.mp hs).right hr
  case neg =>
    have hb : ∀ text, ['/'].intercalate (first :: rest) ≠ '.' :: '/' :: text := by
      intro text he
      rw [he] at ht
      exact hf (List.cons.inj ht).left.symm
    have hh : headOf (first :: rest) ≠ [.here] := by
      rw [headOf, if_neg hf]
      split <;> simp
    refine ⟨first :: rest, ?_, hd, by rw [if_neg hh]; rfl⟩
    rw [bare_of_ne (by simpa using hb), String.toList_ofList, ht]

-- The pieces can be told from the text that patterns see, and from whether the path starts with a dot.
theorem dirPieces_eq (hn : p.dirPieces ≠ []) :
    Solid (List.splitOn '/' (bare (dirOf p)).toList) ∧
    p.dirPieces =
      (if p.components.head? = some .here then [['.']] else []) ++ List.splitOn '/' (bare (dirOf p)).toList := by
  have hv : ∃ piece ∈ List.splitOn '/' p.text.toList, ¬isVoid piece := by
    by_contra hv
    exact hn (dirPieces_of_void (by simpa using hv))
  obtain ⟨dir, last, hd, -⟩ := exists_parent hv
  rw [hd.dirPieces_eq] at hn
  obtain ⟨seen, ht, hs, he⟩ := splitOn_bare hn hd.noSlash hd.solid
  simp only [dirOf_eq, hd.dirPieces_eq, if_neg hn, ht, components_head?_eq_here, ← hd.headOf_eq hn]
  exact ⟨hs, he⟩

theorem bare_dirOf_of_nil (hn : p.dirPieces = []) : ¬Solid (List.splitOn '/' (bare (dirOf p)).toList) := by
  rw [dirOf_eq, if_pos hn]
  split
  case isTrue  => exact fun h => h [] rfl rfl
  case isFalse => exact fun h => h ['.'] rfl rfl

theorem bare_dirOf_eq_iff (h : p.same q) : bare (dirOf p) = bare (dirOf q) ↔ p.dirPieces = q.dirPieces := by
  have hc := same_iff.mp h
  constructor
  case mpr =>
    intro hp
    rw [dirOf_eq, dirOf_eq, hp, hc]
  case mp =>
    intro hb
    by_cases hp : p.dirPieces = []
    case pos =>
      by_contra hq
      rw [hp] at hq
      have hs := (dirPieces_eq (Ne.symm hq)).left
      rw [← hb] at hs
      exact bare_dirOf_of_nil hp hs
    case neg =>
      obtain ⟨hs, hpp⟩ := dirPieces_eq hp
      rw [hb] at hs hpp
      have hq : q.dirPieces ≠ [] := fun hq => bare_dirOf_of_nil hq hs
      rw [hpp, (dirPieces_eq hq).right, hc]

theorem forall_excludesFile_iff :
    (∀ x : Excludes, x.excludesFile p = x.excludesFile q) ↔ bare (dirOf p) = bare (dirOf q) := by
  constructor
  case mp =>
    intro hx
    -- A pattern that fits the directory of one file only.
    let x : Excludes := { patterns := [(· = bare (dirOf q))] }
    have hq : x.Fits q := ⟨_, List.mem_cons_self, decide_eq_true rfl⟩
    rw [← excludesFile_iff, ← hx, excludesFile_iff] at hq
    obtain ⟨pattern, hm, hf⟩ := hq
    rw [List.mem_singleton.mp hm] at hf
    exact of_decide_eq_true hf
  case mpr =>
    intro hb x
    rw [Bool.eq_iff_iff, excludesFile_iff, excludesFile_iff, Fits, Fits, hb]

end Excludes

-- Two spellings of a file are excluded by the same patterns exactly if they spell its directory alike. They may differ
-- in what stands between the directory and the name, and in what follows the name.
theorem excludesFile_spelling (p q : Path) (h : p.same q) :
    (∀ x : Excludes, x.excludesFile p = x.excludesFile q) ↔ p.dirPieces = q.dirPieces :=
  Excludes.forall_excludesFile_iff.trans (Excludes.bare_dirOf_eq_iff h)

theorem excludesFile_spelling_gap :
    Path.same ⟨"a/b/x.go"⟩ ⟨"a/b//./x.go/"⟩ ∧
    ∀ x : Excludes, x.excludesFile ⟨"a/b/x.go"⟩ = x.excludesFile ⟨"a/b//./x.go/"⟩ := by
  have hs : Path.same ⟨"a/b/x.go"⟩ ⟨"a/b//./x.go/"⟩ := by decide
  exact ⟨hs, (excludesFile_spelling _ _ hs).mpr (by decide)⟩

-- A file is not excluded with its directory if the directory is spelled with a second slash, with a dot inside, or with
-- a second dot in front.
theorem excludesFile_respelled :
    let x : Excludes := { patterns := [(· = "a/b")] }
    x.excludesFile ⟨"a/b/x.go"⟩ ∧ x.excludesFile ⟨"./a/b/x.go"⟩ ∧
    (Path.same ⟨"a/b/x.go"⟩ ⟨"a//b/x.go"⟩ ∧ ¬x.excludesFile ⟨"a//b/x.go"⟩) ∧
    (Path.same ⟨"a/b/x.go"⟩ ⟨"a/./b/x.go"⟩ ∧ ¬x.excludesFile ⟨"a/./b/x.go"⟩) ∧
    (Path.same ⟨"./a/b/x.go"⟩ ⟨"././a/b/x.go"⟩ ∧ ¬x.excludesFile ⟨"././a/b/x.go"⟩) := by
  decide

end ErrorOrigins
