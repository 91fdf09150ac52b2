import ErrorOrigins.Proofs.Spelling
import ErrorOrigins.Proofs.TreeFiles

namespace ErrorOrigins

namespace Path

-- The path, seen from the current directory.
def dotted (p : Path) : Path :=
  ⟨"./" ++ p.text⟩

-- A path that starts neither at the root nor with a `./`.
structure Plain (p : Path) : Prop where
  relative : ¬isAbsolute p.text
  noDot    : ∀ rest, p.text ≠ "./" ++ rest

section Pieces

variable {p : Path}

theorem splitOn_dotted (p : Path) :
    List.splitOn '/' p.dotted.text.toList = ['.'] :: List.splitOn '/' p.text.toList := by
  rw [dotted, String.toList_append]
  exact List.splitOn_append_cons_self ['.'] p.text.toList

theorem dirPieces_dotted (p : Path) :
    p.dotted.dirPieces = if p.dirPieces = [] then [] else ['.'] :: p.dirPieces := by
  have hd : isVoid ['.'] := rfl
  by_cases hv : ∃ piece ∈ List.splitOn '/' p.text.toList, ¬isVoid piece
  case pos =>
    obtain ⟨dir, last, hp⟩ := exists_parts hv
    have hc := hp.cons hd
    rw [← splitOn_dotted] at hc
    rw [hc.dirPieces_eq, hp.dirPieces_eq]
  case neg =>
    have hv : ∀ piece ∈ List.splitOn '/' p.text.toList, isVoid piece := by simpa using hv
    rw [dirPieces_of_void hv, if_pos rfl, dirPieces_of_void]
    rw [splitOn_dotted]
    exact List.forall_mem_cons.mpr ⟨hd, hv⟩

theorem headOf_dotted (p : Path) : headOf (List.splitOn '/' p.dotted.text.toList) = [.here] := by
  rw [splitOn_dotted, headOf, if_pos rfl]

namespace Plain

variable (h : p.Plain)

include h

theorem headOf_ne_root : headOf (List.splitOn '/' p.text.toList) ≠ [.root] := by
  have hr := h.relative
  rw [isAbsolute] at hr
  cases ht : p.text.toList
  case nil => simp [headOf]
  case cons c text =>
    obtain ⟨piece, pieces, hp⟩ := List.exists_cons_of_ne_nil (List.splitOn_ne_nil '/' text)
    have hc : c ≠ '/' := by simpa [ht] using hr
    rw [List.splitOn_cons_eq_if_modifyHead, if_neg (by simpa using hc), hp, List.modifyHead_cons, headOf]
    split <;> simp

-- The current directory itself is the only plain path that starts with a dot, and there is nothing around it.
theorem head?_ne_here (hn : p.dirPieces ≠ []) : p.components.head? ≠ some .here := by
  have hh : headOf (List.splitOn '/' p.text.toList) = [] := by
    refine headOf_splitOn ?root ?dot ?dotSlash
    case root =>
      intro rest ht
      exact h.relative (by simp [isAbsolute, ht])
    case dot =>
      intro ht
      have hp : p = ⟨"."⟩ := by
        cases p
        exact congrArg Path.mk (String.toList_inj.mp ht)
      rw [hp] at hn
      exact hn rfl
    case dotSlash =>
      intro rest ht
      refine h.noDot (String.ofList rest) (String.toList_inj.mp ?_)
      simp [ht]
  rw [ne_eq, components_head?_eq_here, hh]
  exact (List.cons_ne_nil _ _).symm

end Plain

end Pieces

end Path

namespace Excludes

open ErrorOrigins.Path

variable {p : Path}

theorem dirOf_of_nil (hn : p.dirPieces = []) (hr : headOf (List.splitOn '/' p.text.toList) ≠ [.root]) :
    dirOf p = "." := by
  have hc : p.components.dropLast ≠ [.root] := by
    intro hc
    have hm : .root ∈ p.components := List.dropLast_subset _ (hc ▸ List.mem_cons_self)
    rw [components_eq] at hm
    rcases List.mem_append.mp hm with hm | hm
    case inl =>
      rcases headOf_cases (List.splitOn '/' p.text.toList) with hh | hh | hh
      · exact hr hh
      · simp [hh] at hm
      · simp [hh] at hm
    case inr => exact (ne_head_of_mem_namesOf hm).left rfl
  rw [dirOf_eq, if_pos hn, if_neg hc]

-- The dot in front is no part of what patterns see.
theorem bare_dirOf_dotted (h : p.Plain) : bare (dirOf p.dotted) = bare (dirOf p) := by
  by_cases hn : p.dirPieces = []
  case pos =>
    have hd : p.dotted.dirPieces = [] := by rw [dirPieces_dotted, if_pos hn]
    have hr : headOf (List.splitOn '/' p.dotted.text.toList) ≠ [.root] := by simp [headOf_dotted]
    rw [dirOf_of_nil hd hr, dirOf_of_nil hn h.headOf_ne_root]
  case neg =>
    have hd : p.dotted.dirPieces = ['.'] :: p.dirPieces := by rw [dirPieces_dotted, if_neg hn]
    have hs := (dirPieces_eq (hd ▸ List.cons_ne_nil _ _)).right
    rw [if_pos (components_head?_eq_here.mpr (headOf_dotted p)), hd, (dirPieces_eq hn).right,
      if_neg (h.head?_ne_here hn), List.nil_append, List.singleton_append] at hs
    have ht := congrArg (['/'].intercalate ·) (List.cons.inj hs).right
    rw [List.intercalate_splitOn, List.intercalate_splitOn] at ht
    exact (String.toList_inj.mp ht).symm

end Excludes

-- A file that is named from the current directory is excluded if and only if it is excluded under its plain name. So of
-- the files that two queries list, one with a dot and one without, patterns take away the same.
theorem excludesFile_dotted (p : Path) (h : p.Plain) (x : Excludes) :
    x.excludesFile p.dotted = x.excludesFile p ∧
    ∀ (q q' : Query) (fs : FileSystem) (env : Environment),
      (q.withExcludes .none).Lists fs env p.dotted → (q'.withExcludes .none).Lists fs env p →
      ((q.withExcludes x).Lists fs env p.dotted ↔ (q'.withExcludes x).Lists fs env p) := by
  have he : x.excludesFile p.dotted = x.excludesFile p :=
    Excludes.forall_excludesFile_iff.mpr (Excludes.bare_dirOf_dotted h) x
  refine ⟨he, fun q q' fs env hd hp => ?_⟩
  rw [Query.lists_withExcludes hd, Query.lists_withExcludes hp, he]

namespace SampleDotted

open SampleTree

def place : Place := ⟨["a", "b"], "y.go"⟩

-- A query for one file under its plain name.
def named : Query :=
  { targets := ["a/b/y.go"], excludes := .none, extensions := ["go"] }

def excludes : Excludes :=
  { patterns := [(· = "a/b")] }

theorem plain : Path.Plain ⟨"a/b/y.go"⟩ where
  relative   := by decide
  noDot rest := by
    intro h
    have ht := congrArg (·.toList.head?) h
    simp at ht

theorem reachable : place.Reachable fs ⟨"."⟩ := by
  refine (isTop.reachable_iff rfl rfl).mpr ⟨?shows, by decide, _, rfl⟩
  case shows =>
    have ha : top.child? "a" =
        some (.dir [("b", .dir [("y.go", .file (.ok []))] none), ("_z.go", .file (.ok []))] none) :=
      rfl
    refine (Entry.shows_cons_iff ha).mpr ⟨by decide, (Entry.shows_cons_iff rfl).mpr ⟨by decide, Entry.shows_nil _⟩⟩

theorem lists_dotted : query.Lists fs default ⟨"./a/b/y.go"⟩ := by
  have hl : place.Listed ⟨"."⟩ top query := by
    refine ⟨⟨.ok [], rfl⟩, by decide, by decide, ⟨"y", "go", by decide⟩, ?_⟩
    simp [Excludes.Fits, query, Excludes.none]
  rw [Query.lists_iff, isTop.selected_eq rfl]
  exact List.mem_map.mpr ⟨place, isTop.mem_places.mpr ⟨hl, reachable⟩, rfl⟩

theorem lists_named : (named.withExcludes .none).Lists fs default ⟨"a/b/y.go"⟩ := by
  have hg : fs.get ⟨"a/b/y.go"⟩ = .ok (.file (.ok [])) :=
    FileSystem.get_names (by decide) (by decide) rfl (by decide)
  have ht : (named.withExcludes .none).texts.map (Target.ofText fs) = [.file ⟨"a/b/y.go"⟩] := by
    simp [Query.texts, Query.withExcludes, named, Target.ofText_file (by decide) hg]
  rw [Query.lists_iff, Query.selected, Query.allowed, Query.candidates, ht]
  exact List.mem_cons_self

end SampleDotted

open SampleTree SampleDotted in
-- The pattern takes a file away from the default tree as it does from a query that names it.
theorem excludesFile_dotted_sample :
    Path.Plain ⟨"a/b/y.go"⟩ ∧ excludes.excludesFile ⟨"./a/b/y.go"⟩ ∧
    query.Lists fs default ⟨"./a/b/y.go"⟩ ∧ ¬(query.withExcludes excludes).Lists fs default ⟨"./a/b/y.go"⟩ := by
  obtain ⟨he, hf⟩ := excludesFile_dotted ⟨"a/b/y.go"⟩ plain excludes
  have hd : Path.dotted ⟨"a/b/y.go"⟩ = ⟨"./a/b/y.go"⟩ := rfl
  rw [hd] at he hf
  refine ⟨plain, he.trans (by decide), lists_dotted, fun hm => ?_⟩
  have hn := (hf query named fs default lists_dotted lists_named).mp hm
  rw [Query.lists_withExcludes lists_named] at hn
  exact absurd hn (by decide)

end ErrorOrigins
