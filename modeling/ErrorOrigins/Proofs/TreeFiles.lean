import ErrorOrigins.Proofs.PackageTree

namespace ErrorOrigins

-- Where a file is, seen from a directory: the directories on the way to it, and its name.
structure Place where
  way  : List String
  name : String
  deriving DecidableEq, Repr, Inhabited

namespace Place

def path (root : Path) (x : Place) : Path :=
  (root.below x.way).join x.name

-- A directory comes before those below it, and files in it are ordered by their names.
def Before (x y : Place) : Prop :=
  List.Lex Text.Precedes x.way y.way ∨ x.way = y.way ∧ Text.Precedes x.name y.name

theorem not_before_self {x : Place} : ¬x.Before x := by
  have hp : ∀ text, ¬Text.Precedes text text := fun text => List.lex_irrefl (fun x => Nat.lt_irrefl x.toNat) _
  rintro (hw | ⟨-, hn⟩)
  case inl => exact List.lex_irrefl hp _ hw
  case inr => exact hp _ hn

-- What a file has to be for a tree of packages to list it.
structure Listed (root : Path) (top : Entry) (q : Query) (x : Place) : Prop where
  regular   : ∃ content, top.get? (x.way ++ [x.name]) = some (.file content)
  entered   : ∀ dir ∈ x.way, dir ≠ "testdata" ∧ dir ≠ "vendor" ∧ ¬isHidden dir
  shown     : ¬isHidden x.name
  extension : ∃ stem, ∃ ending ∈ q.extensions, x.name = stem ++ "." ++ ending ∧ stem ≠ "" ∧ '.' ∉ ending.toList
  allowed   : ¬q.excludes.Fits (x.path root)

-- Every directory on the way to the file is seen in the one before it, and the directory of the file is listed to its
-- end. A directory that is not permitted to be opened, or whose path is too long, has no listing.
structure Reachable (fs : FileSystem) (root : Path) (x : Place) : Prop where
  seen   : ∀ front name back, x.way = front ++ name :: back →
    ∃ listing, fs.readDir (root.below front) = .ok listing ∧ name ∈ listing.entries.map (·.1)
  listed : ∃ listing, fs.readDir (root.below x.way) = .ok listing ∧ listing.fault = none

theorem path_injective {root : Path} {x y : Place} (hx : ∀ name ∈ x.way ++ [x.name], ValidName name)
    (hy : ∀ name ∈ y.way ++ [y.name], ValidName name) (h : (x.path root).same (y.path root)) : x = y := by
  have hp : ∀ z : Place, z.path root = root.below (z.way ++ [z.name]) := fun z => Path.below_concat.symm
  rw [Path.same_iff, hp, hp, Path.components_below hx, Path.components_below hy, List.append_cancel_left_eq] at h
  have hn := List.map_injective_iff.mpr (fun a b hab => Path.Component.name.inj hab) h
  obtain ⟨hw, hn⟩ := List.append_inj' hn rfl
  cases x
  cases y
  simp_all

end Place

section Tree

-- A directory of a file system, entered by a path that is no link and not the standard input.
structure FileSystem.Top (fs : FileSystem) (root : Path) (top : Entry) : Prop where
  get    : fs.get root = .ok top
  isDir  : top.isDir
  noLink : ¬fs.isLink root
  noText : ¬root.same standardInput
  valid  : top.Valid

variable {fs : FileSystem} {root : Path} {top : Entry} {env : Environment} {q : Query} {way : List String}

theorem Query.candidates_tree (ht : q.targets = [root.text ++ Target.treeEnding]) (hd : fs.isDir root) :
    q.candidates fs env = (fs.packageDirs root).flatMap (fs.sourcesIn q.extensions) := by
  have hs : q.texts.map (Target.ofText fs) = [.tree root] := by simp [texts, ht, Target.ofText_tree hd]
  rw [candidates, hs]
  simp [Target.kinds, offeredIn, Target.kind, offeredBy]

-- The source files of the directory at the end of a way, if it can be listed to its end.
def Query.placesIn (q : Query) (root : Path) (top : Entry) (way : List String) : List Place :=
  if (root.below way).text.utf8ByteSize ≤ FileSystem.pathLimit then
    match top.get? way with
    | some (.dir entries none) => (Entry.sourceNames q.extensions entries).map (Place.mk way)
    | _                        => []
  else []

-- All files of the tree that are not excluded, in their order.
def Query.places (q : Query) (root : Path) (top : Entry) : List Place :=
  ((top.sortedWays.filter (FileSystem.isSeen root)).flatMap (q.placesIn root top)).filter fun x => !q.excludes.excludesFile (x.path root)

theorem Query.mem_placesIn {x : Place} :
    x ∈ q.placesIn root top way ↔
      x.way = way ∧ (root.below way).text.utf8ByteSize ≤ FileSystem.pathLimit ∧
        ∃ entries, top.get? way = some (.dir entries none) ∧ x.name ∈ Entry.sourceNames q.extensions entries := by
  rw [placesIn]
  constructor
  case mp =>
    intro hx
    split at hx
    case isFalse => cases hx
    case isTrue hs =>
      split at hx
      case h_2 => cases hx
      case h_1 entries hg =>
        obtain ⟨name, hn, rfl⟩ := List.mem_map.mp hx
        exact ⟨rfl, hs, entries, hg, hn⟩
  case mpr =>
    rintro ⟨rfl, hs, entries, hg, hn⟩
    rw [if_pos hs, hg]
    exact List.mem_map.mpr ⟨x.name, hn, rfl⟩

theorem Entry.get?_concat_eq_file {name : String} {content : Except Fault (List UInt8)} :
    top.get? (way ++ [name]) = some (.file content) ↔
      ∃ d, top.get? way = some d ∧ d.child? name = some (.file content) := by
  rw [get?_append, Option.bind_eq_some_iff]
  simp [get?]

theorem Entry.isDir_of_child {e child : Entry} {name : String} (h : e.child? name = some child) : e.isDir := by
  cases e
  case dir         => rfl
  case file | link => cases h

theorem Entry.isDir_of_seen {e : Entry} {name : String} (h : name ∈ e.seen.map (·.1)) : e.isDir := by
  cases e
  case dir         => rfl
  case file | link => cases h

theorem Entry.not_isLink_of_isDir {e : Entry} (h : e.isDir) : ¬e.isLink := by
  cases e <;> simp_all [isDir, isLink]

-- Only a listing that is complete has no fault.
theorem Entry.listing_eq_complete {e : Entry} {listing : Listing} (h : e.listing = .ok listing)
    (hf : listing.fault = none) : e = .dir listing.entries none := by
  obtain _ | ⟨entries, _ | ⟨fault⟩ | ⟨shown, fault⟩⟩ | _ := e <;> cases h
  case dir.none.refl        => rfl
  case dir.some.broken.refl => cases hf

theorem Entry.exists_listing {e : Entry} {name : String} (h : name ∈ e.seen.map (·.1)) :
    ∃ listing, e.listing = .ok listing ∧ name ∈ listing.entries.map (·.1) := by
  cases hl : e.listing
  case error fault => simp [seen, hl] at h
  case ok listing  => exact ⟨listing, rfl, seen_of_listing hl ▸ h⟩

namespace FileSystem.Top

theorem of_resolve {there : List String} (hr : ∀ through, fs.resolve through root = .ok (there, some top))
    (hd : top.isDir) (hi : ¬root.same standardInput) (hv : top.Valid) : fs.Top root top where
  get    := get_eq_ok_iff.mpr ⟨there, hr true⟩
  isDir  := hd
  noLink := by simp [isLink, hr false, Entry.not_isLink_of_isDir hd]
  noText := hi
  valid  := hv

variable (h : fs.Top root top)

include h

theorem packageDirs_eq : fs.packageDirs root = (top.sortedWays.filter (isSeen root)).map root.below := by
  rw [packageDirs, h.get]
  simp only [h.noText, h.noLink]
  rfl

-- What a way leads to is what the path that it spells leads to, if this can be looked up.
theorem get_way {d : Entry} (hg : top.get? way = some d) (hd : d.isDir)
    (hs : (root.below way).text.utf8ByteSize ≤ pathLimit) : fs.get (root.below way) = .ok d := by
  have hn := (Entry.valid_of_get? h.valid hg).right
  obtain ⟨entries, obstacle, rfl⟩ : ∃ entries obstacle, top = .dir entries obstacle := by
    have ht := h.isDir
    cases top <;> simp_all [Entry.isDir]
  exact get_below h.get hn hg (Entry.not_isLink_of_isDir hd) hs

theorem listing_of_readDir {d : Entry} {listing : Listing} (hg : top.get? way = some d) (hd : d.isDir)
    (hr : fs.readDir (root.below way) = .ok listing) : d.listing = .ok listing := by
  obtain ⟨d', hf, hl⟩ := readDir_eq_ok_iff.mp hr
  have hd' := h.get_way hg hd (searchable_of_get hf).short
  cases hf.symm.trans hd'
  exact hl

theorem sourcesIn_below (hw : way ∈ top.sortedWays) :
    fs.sourcesIn q.extensions (root.below way) = (q.placesIn root top way).map (Place.path root) := by
  obtain ⟨⟨d, hg, hd⟩, -⟩ := (Entry.mem_packageWays h.valid).mp (List.mem_mergeSort.mp hw)
  rw [Query.placesIn, sourcesIn]
  split_ifs
  case pos hs =>
    rw [readDir_of_get (h.get_way hg hd hs), hg]
    obtain _ | ⟨entries, _ | ⟨fault⟩ | ⟨shown, fault⟩⟩ | _ := d
    case dir.none => simp [Entry.listing, Entry.sourceNames, Place.path, Function.comp_def]
    all_goals rfl
  case neg hs =>
    cases hr : fs.readDir (root.below way)
    case error fault => rfl
    case ok listing  =>
      obtain ⟨e, he, -⟩ := readDir_eq_ok_iff.mp hr
      exact absurd (searchable_of_get he).short hs

theorem isDir_root : fs.isDir root := by
  simp [FileSystem.isDir, h.get, h.isDir]

theorem allowed_eq (ht : q.targets = [root.text ++ Target.treeEnding]) :
    q.allowed fs env = (q.places root top).map (Place.path root) := by
  let ways := top.sortedWays.filter (isSeen root)
  have hf : ways.flatMap (fun way => fs.sourcesIn q.extensions (root.below way)) =
      ways.flatMap fun way => (q.placesIn root top way).map (Place.path root) :=
    List.flatMap_congr fun way hw => h.sourcesIn_below (List.mem_of_mem_filter hw)
  rw [Query.allowed, Query.candidates_tree ht h.isDir_root, h.packageDirs_eq, List.flatMap_map, hf, ← List.map_flatMap,
    List.filter_map]
  rfl

-- The way to a file can be gone if the names on it are seen and its directory is complete.
theorem reachable_iff {x : Place} {d : Entry} (hg : top.get? x.way = some d) (hd : d.isDir) :
    x.Reachable fs root ↔ top.Shows x.way ∧ (root.below x.way).text.utf8ByteSize ≤ pathLimit ∧
      ∃ entries, d = .dir entries none := by
  constructor
  case mp =>
    rintro ⟨hs, listing, hr, hf⟩
    obtain ⟨e, he, -⟩ := readDir_eq_ok_iff.mp hr
    refine ⟨fun front name back hw => ?shows, (searchable_of_get he).short, listing.entries, ?complete⟩
    case shows =>
      obtain ⟨listing', hr', hm⟩ := hs front name back hw
      rw [hw, Entry.get?_append] at hg
      obtain ⟨d', hg', hn⟩ := Option.bind_eq_some_iff.mp hg
      obtain ⟨child, hc, -⟩ := Option.bind_eq_some_iff.mp hn
      have hl := h.listing_of_readDir hg' (Entry.isDir_of_child hc) hr'
      exact ⟨d', hg', Entry.seen_of_listing hl ▸ hm⟩
    case complete => exact Entry.listing_eq_complete (h.listing_of_readDir hg hd hr) hf
  case mpr =>
    rintro ⟨hs, hl, entries, rfl⟩
    have hw := (Entry.valid_of_get? h.valid hg).right
    refine ⟨fun front name back he => ?seen, ?listed⟩
    case seen =>
      obtain ⟨d, hf, hm⟩ := hs front name back he
      have hz := (Path.size_below_le hw ⟨_, he.symm⟩).trans hl
      have hr := readDir_of_get (h.get_way hf (Entry.isDir_of_seen hm) hz)
      obtain ⟨listing, hd, hm⟩ := Entry.exists_listing hm
      exact ⟨listing, hr.trans hd, hm⟩
    case listed => exact ⟨⟨entries, none⟩, readDir_of_get (h.get_way hg rfl hl), rfl⟩

theorem mem_places {x : Place} : x ∈ q.places root top ↔ x.Listed root top q ∧ x.Reachable fs root := by
  have hk : ∀ dir, ¬isSkippedDir dir ↔ dir ≠ "testdata" ∧ dir ≠ "vendor" ∧ ¬isHidden dir := by
    simp [isSkippedDir, and_assoc]
  rw [Query.places, List.mem_filter, List.mem_flatMap, Excludes.not_excludesFile_iff]
  simp only [Query.mem_placesIn, Entry.sortedWays, List.mem_filter, List.mem_mergeSort, Entry.mem_packageWays h.valid,
    hk]
  constructor
  case mp =>
    rintro ⟨⟨way, ⟨⟨-, hs, he⟩, -⟩, rfl, hl, entries, hg, hn⟩, ha⟩
    have hd := (Entry.valid_of_get? h.valid hg).left.distinct
    obtain ⟨⟨content, hc⟩, hi, ending, hm, hn⟩ := (Entry.mem_sourceNames hd).mp hn
    obtain ⟨stem, hn⟩ := Path.nameExtension?_eq_some_iff.mp hn
    refine ⟨⟨⟨content, ?regular⟩, he, hi, ⟨stem, ending, hm, hn⟩, ha⟩, ?reachable⟩
    case regular   => exact Entry.get?_concat_eq_file.mpr ⟨_, hg, hc⟩
    case reachable => exact (h.reachable_iff hg rfl).mpr ⟨hs, hl, entries, rfl⟩
  case mpr =>
    rintro ⟨⟨⟨content, hr⟩, he, hi, ⟨stem, ending, hm, hn⟩, ha⟩, hx⟩
    obtain ⟨d, hg, hc⟩ := Entry.get?_concat_eq_file.mp hr
    obtain ⟨hs, hl, entries, rfl⟩ := (h.reachable_iff hg (Entry.isDir_of_child hc)).mp hx
    obtain ⟨hv, hw⟩ := Entry.valid_of_get? h.valid hg
    have hn := (Entry.mem_sourceNames hv.distinct).mpr
      ⟨⟨content, hc⟩, hi, ending, hm, Path.nameExtension?_eq_some_iff.mpr ⟨stem, hn⟩⟩
    have hb : isSeen root x.way := decide_eq_true ((Path.size_below_le hw (List.dropLast_prefix _)).trans hl)
    exact ⟨⟨x.way, ⟨⟨⟨_, hg, rfl⟩, hs, he⟩, hb⟩, rfl, hl, entries, hg, hn⟩, ha⟩

theorem validName_of_mem {x : Place} (hx : x ∈ q.places root top) : ∀ name ∈ x.way ++ [x.name], ValidName name := by
  obtain ⟨content, hg⟩ := (h.mem_places.mp hx).left.regular
  exact (Entry.valid_of_get? h.valid hg).right

theorem places_pairwise : (q.places root top).Pairwise Place.Before := by
  refine List.Pairwise.filter _ (List.pairwise_flatMap.mpr ⟨fun way _ => ?each, ?between⟩)
  case each =>
    rw [Query.placesIn]
    split
    case isFalse => exact .nil
    case isTrue  =>
      split
      case h_2 => exact .nil
      case h_1 entries hg =>
        have hd := (Entry.valid_of_get? h.valid hg).left.distinct
        exact (Entry.sourceNames_pairwise hd).map _ fun name name' hn => .inr ⟨rfl, hn⟩
  case between =>
    refine ((Entry.sortedWays_pairwise h.valid).filter _).imp fun hl x hx y hy => .inl ?_
    obtain ⟨rfl, -⟩ := Query.mem_placesIn.mp hx
    obtain ⟨rfl, -⟩ := Query.mem_placesIn.mp hy
    exact hl

theorem paths_pairwise :
    ((q.places root top).map (Place.path root)).Pairwise fun path path' => ¬path.same path' := by
  refine List.pairwise_map.mpr ((h.places_pairwise).imp_of_mem fun hx hy hb hs => ?_)
  cases Place.path_injective (h.validName_of_mem hx) (h.validName_of_mem hy) hs
  exact Place.not_before_self hb

theorem selected_eq (ht : q.targets = [root.text ++ Target.treeEnding]) :
    q.selected fs env = (q.places root top).map (Place.path root) := by
  rw [Query.selected, h.allowed_eq ht]
  exact keepFirst_eq_self h.paths_pairwise fun _ _ => Path.not_among_nil

end FileSystem.Top

end Tree

namespace SampleTree

-- One directory cannot be opened, and of another one only the first entry is seen.
def top : Entry :=
  .dir [("x.go", .file (.ok [])), ("a-b", .dir [("w.go", .file (.error .permissionDenied))] none),
    ("a", .dir [("b", .dir [("y.go", .file (.ok []))] none), ("_z.go", .file (.ok []))] none),
    ("vendor", .dir [("v.go", .file (.ok []))] none), ("l.go", .link "x.go"),
    ("shut", .dir [("s.go", .file (.ok []))] (some (.closed .permissionDenied))),
    ("torn", .dir [("t", .dir [("t.go", .file (.ok []))] none), ("u.go", .file (.ok []))]
      (some (.broken 1 default)))] none

def fs : FileSystem where
  root := top
  cwd  := []

def query : Query :=
  { targets := ["./..."], excludes := .none, extensions := ["go"] }

-- A directory with one file in it.
theorem valid_single {name : String} {content : Except Fault (List UInt8)} (obstacle : Option Obstacle)
    (hv : ValidName name) : (Entry.dir [(name, .file content)] obstacle).Valid :=
  .dir obstacle (by simp) (by simpa using hv) (by simpa using .file content)

theorem valid : top.Valid := by
  refine .dir _ (by decide) (by decide) ?_
  simp only [List.forall_mem_cons]
  refine ⟨.file _, valid_single _ (by decide), .dir _ (by decide) (by decide) ?_, valid_single _ (by decide), .link _,
    valid_single _ (by decide), .dir _ (by decide) (by decide) ?_, by simp⟩
  all_goals
    simp only [List.forall_mem_cons]
    exact ⟨valid_single _ (by decide), .file _, by simp⟩

theorem isTop : fs.Top ⟨"."⟩ top :=
  .of_resolve (fun _ => FileSystem.resolve_dots (by decide) (by decide)) rfl (by decide) valid

end SampleTree

namespace Missed

-- The current directory, with some slashes after it.
def dotSlashes (n : Nat) : Path :=
  ⟨String.ofList ('.' :: List.replicate n '/')⟩

variable (n : Nat)

theorem size_dotSlashes : (dotSlashes n).text.utf8ByteSize = n + 1 := by
  induction n
  case zero => rfl
  case succ n hi =>
    have h : (dotSlashes (n + 1)).text = (dotSlashes n).text ++ "/" := by
      rw [dotSlashes, List.replicate_succ', ← List.cons_append, String.ofList_append]
      rfl
    rw [h, String.utf8ByteSize_append, hi]
    rfl

theorem splitOn_dotSlashes : List.splitOn '/' (dotSlashes n).text.toList = ['.'] :: List.replicate n [] := by
  induction n
  case zero => rfl
  case succ n hi =>
    have h : (dotSlashes (n + 1)).text.toList = (dotSlashes n).text.toList ++ ['/'] := by
      simp [dotSlashes, List.replicate_succ']
    rw [h, List.splitOn_append_cons_self, hi, List.replicate_succ']
    rfl

theorem steps_dotSlashes : ∀ step ∈ FileSystem.steps (dotSlashes n).text, step = "." := by
  obtain ⟨dots, hs, hd⟩ := FileSystem.steps_eq (dotSlashes n).text
  rw [hs]
  refine List.forall_mem_append.mpr ⟨?_, hd⟩
  rw [FileSystem.names, splitOn_dotSlashes]
  simp

theorem components_dotSlashes : (dotSlashes n).components = [.here] := by
  rw [Path.components_eq, splitOn_dotSlashes]
  simp [Path.headOf, Path.namesOf, Path.isVoid]

theorem searchable_dotSlashes (h : n < FileSystem.pathLimit) : (dotSlashes n).Searchable where
  noNul    := by simp [dotSlashes]
  nonempty := by simp [dotSlashes]
  short    := by rw [size_dotSlashes]; exact h

theorem resolve_dotSlashes {fs : FileSystem} (hc : fs.cwd = []) (h : n < FileSystem.pathLimit) (through : Bool) :
    fs.resolve through (dotSlashes n) = .ok ([], some fs.root) := by
  have hs : FileSystem.startOf (dotSlashes n).text fs.cwd = [] := by
    rw [hc, FileSystem.startOf, ite_self]
  rw [FileSystem.resolve_dots (searchable_dotSlashes n h) (steps_dotSlashes n), hs]
  rfl

-- The query for the Go files of a tree, with nothing excluded.
def query (root : Path) : Query :=
  { targets := [root.text ++ "/..."], excludes := .none, extensions := ["go"] }

-- A directory `d` with one file in it.
def dir (obstacle : Option Obstacle) : Entry :=
  .dir [("x.go", .file (.ok []))] obstacle

def fs (obstacle : Option Obstacle) : FileSystem where
  root := .dir [("d", dir obstacle)] none
  cwd  := []

def place : Place :=
  ⟨["d"], "x.go"⟩

variable (obstacle : Option Obstacle)

theorem isTop (h : n < FileSystem.pathLimit) : (fs obstacle).Top (dotSlashes n) (fs obstacle).root := by
  have hv : (fs obstacle).root.Valid := by
    refine .dir _ (by simp) ?_ ?_
    · simpa using by decide
    · simpa [dir] using SampleTree.valid_single obstacle (by decide)
  refine .of_resolve (resolve_dotSlashes n rfl h) rfl ?_ hv
  rw [Path.same_iff, components_dotSlashes]
  decide

theorem listed (root : Path) : place.Listed root (fs obstacle).root (query root) where
  regular   := ⟨.ok [], rfl⟩
  entered   := by simp only [place]; decide
  shown     := show ¬isHidden "x.go" by decide
  extension := ⟨"x", "go", List.mem_cons_self, rfl, by decide, by decide⟩
  allowed   := by simp [Excludes.Fits, query, Excludes.none]

end Missed

end ErrorOrigins
