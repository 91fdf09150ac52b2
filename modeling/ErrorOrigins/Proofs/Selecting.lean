import ErrorOrigins.Files.Selection
import ErrorOrigins.Proofs.Lookup

namespace ErrorOrigins

namespace Path

variable {p q r : Path} {paths paths' : List Path}

theorem same_iff : p.same q ↔ p.components = q.components := by
  simp [same]

theorem same_refl (p : Path) : p.same p :=
  same_iff.mpr rfl

theorem same_symm (h : p.same q) : q.same p :=
  same_iff.mpr (same_iff.mp h).symm

theorem same_trans (h : p.same q) (h' : q.same r) : p.same r :=
  same_iff.mpr ((same_iff.mp h).trans (same_iff.mp h'))

-- Some spelling of the path is in the list.
def Among (p : Path) (paths : List Path) : Prop :=
  ∃ q ∈ paths, q.same p

theorem not_among_nil : ¬p.Among [] := by
  simp [Among]

theorem among_cons : p.Among (q :: paths) ↔ q.same p ∨ p.Among paths := by
  simp [Among]

theorem among_append : p.Among (paths ++ paths') ↔ p.Among paths ∨ p.Among paths' := by
  simp [Among, or_and_right, exists_or]

theorem among_of_mem (h : p ∈ paths) : p.Among paths :=
  ⟨p, h, same_refl p⟩

theorem Among.of_same (h : p.Among paths) (hs : p.same q) : q.Among paths := by
  obtain ⟨r, hr, hp⟩ := h
  exact ⟨r, hr, same_trans hp hs⟩

theorem any_same_iff : paths.any (·.same p) ↔ p.Among paths :=
  List.any_eq_true

end Path

section KeepFirst

variable {p : Path} {seen seen' : List Path} (paths paths' : List Path)

theorem keepFirst_of_among (h : p.Among seen) : keepFirst seen (p :: paths) = keepFirst seen paths := by
  rw [keepFirst, if_pos (Path.any_same_iff.mpr h)]

theorem keepFirst_of_not_among (h : ¬p.Among seen) :
    keepFirst seen (p :: paths) = p :: keepFirst (p :: seen) paths := by
  rw [keepFirst, if_neg (mt Path.any_same_iff.mp h)]

-- Of what was seen only the paths matter, not their spellings or their order.
theorem keepFirst_congr (h : ∀ p : Path, p.Among seen ↔ p.Among seen') :
    keepFirst seen paths = keepFirst seen' paths := by
  induction paths generalizing seen seen'
  case nil => rfl
  case cons p paths hi =>
    by_cases hp : p.Among seen
    case pos =>
      rw [keepFirst_of_among paths hp, keepFirst_of_among paths ((h p).mp hp)]
      exact hi h
    case neg =>
      rw [keepFirst_of_not_among paths hp, keepFirst_of_not_among paths (mt (h p).mpr hp)]
      have hc : ∀ q : Path, q.Among (p :: seen) ↔ q.Among (p :: seen') :=
        fun q => by rw [Path.among_cons, Path.among_cons, h q]
      rw [hi hc]

theorem keepFirst_append :
    keepFirst seen (paths ++ paths') = keepFirst seen paths ++ keepFirst (seen ++ paths) paths' := by
  induction paths generalizing seen
  case nil => rw [List.append_nil]; rfl
  case cons p paths hi =>
    -- Whether `p` is kept or not, it has been seen after that.
    by_cases hp : p.Among seen
    case pos =>
      have hc : ∀ q : Path, q.Among (seen ++ paths) ↔ q.Among (seen ++ p :: paths) := by
        intro q
        have hq : p.same q → q.Among seen := hp.of_same
        rw [Path.among_append, Path.among_append, Path.among_cons]
        exact ⟨.imp_right .inr, fun h => h.elim .inl (·.imp_left hq)⟩
      rw [List.cons_append, keepFirst_of_among _ hp, keepFirst_of_among _ hp, hi, keepFirst_congr _ hc]
    case neg =>
      have hc : ∀ q : Path, q.Among (p :: seen ++ paths) ↔ q.Among (seen ++ p :: paths) := by
        intro q
        rw [Path.among_append, Path.among_cons, Path.among_append, Path.among_cons, or_assoc, or_left_comm]
      rw [List.cons_append, keepFirst_of_not_among _ hp, keepFirst_of_not_among _ hp, hi, keepFirst_congr _ hc]
      rfl

variable {paths paths'}

theorem keepFirst_eq_nil (h : ∀ p ∈ paths, p.Among seen) : keepFirst seen paths = [] := by
  induction paths
  case nil => rfl
  case cons p paths hi =>
    obtain ⟨hp, hs⟩ := List.forall_mem_cons.mp h
    rw [keepFirst_of_among paths hp]
    exact hi hs

-- A part of a list makes no difference if all of it was there before.
theorem keepFirst_drop {part : List Path} (h : ∀ p ∈ part, p.Among (seen ++ paths)) :
    keepFirst seen (paths ++ part ++ paths') = keepFirst seen (paths ++ paths') := by
  have hc : ∀ q : Path, q.Among (seen ++ (paths ++ part)) ↔ q.Among (seen ++ paths) := by
    intro q
    rw [← List.append_assoc, Path.among_append]
    refine ⟨fun hq => hq.elim id ?_, .inl⟩
    rintro ⟨p, hp, hs⟩
    exact (h p hp).of_same hs
  rw [keepFirst_append, keepFirst_append paths part, keepFirst_eq_nil h, List.append_nil,
    keepFirst_congr _ hc, ← keepFirst_append]

theorem among_keepFirst : p.Among (keepFirst seen paths) ↔ p.Among paths ∧ ¬p.Among seen := by
  induction paths generalizing seen
  case nil => exact ⟨fun h => absurd h Path.not_among_nil, fun h => absurd h.left Path.not_among_nil⟩
  case cons q paths hi =>
    by_cases hq : q.Among seen
    case pos =>
      rw [keepFirst_of_among paths hq, hi, Path.among_cons]
      have hp : q.same p → p.Among seen := hq.of_same
      exact ⟨.imp_left .inr, fun h => ⟨h.left.resolve_left (mt hp h.right), h.right⟩⟩
    case neg =>
      rw [keepFirst_of_not_among paths hq, Path.among_cons, hi, Path.among_cons, Path.among_cons]
      have hp : q.same p → ¬p.Among seen := fun hs h => hq (h.of_same (Path.same_symm hs))
      by_cases hs : q.same p <;> simp [hs, hp]

theorem keepFirst_pairwise : (keepFirst seen paths).Pairwise fun p q => ¬p.same q := by
  induction paths generalizing seen
  case nil => exact .nil
  case cons p paths hi =>
    by_cases hp : p.Among seen
    case pos =>
      rw [keepFirst_of_among paths hp]
      exact hi
    case neg =>
      rw [keepFirst_of_not_among paths hp]
      refine .cons ?_ hi
      intro q hq hs
      have hn := (among_keepFirst.mp (Path.among_of_mem hq)).right
      exact hn (Path.among_cons.mpr (.inl hs))

theorem keepFirst_eq_self (hp : paths.Pairwise fun p q => ¬p.same q) (hs : ∀ p ∈ paths, ¬p.Among seen) :
    keepFirst seen paths = paths := by
  induction paths generalizing seen
  case nil => rfl
  case cons p paths hi =>
    obtain ⟨hp, hps⟩ := List.pairwise_cons.mp hp
    obtain ⟨hn, hns⟩ := List.forall_mem_cons.mp hs
    rw [keepFirst_of_not_among paths hn, hi hps]
    intro q hq
    rw [Path.among_cons]
    exact not_or.mpr ⟨hp q hq, hns q hq⟩

-- A path is kept where it stands if it is not there before, in any spelling.
theorem mem_keepFirst_iff :
    p ∈ keepFirst seen paths ↔ ∃ front back, paths = front ++ p :: back ∧ ¬p.Among (seen ++ front) := by
  constructor
  case mp =>
    intro hp
    induction paths generalizing seen
    case nil => cases hp
    case cons q paths hi =>
      by_cases hq : q.Among seen
      case pos =>
        rw [keepFirst_of_among paths hq] at hp
        obtain ⟨front, back, rfl, hn⟩ := hi hp
        have hs : ¬q.same p := fun hs => hn (Path.among_append.mpr (.inl (hq.of_same hs)))
        refine ⟨q :: front, back, rfl, ?_⟩
        rw [Path.among_append, Path.among_cons, or_left_comm, ← Path.among_append]
        exact not_or.mpr ⟨hs, hn⟩
      case neg =>
        rw [keepFirst_of_not_among paths hq] at hp
        rcases List.mem_cons.mp hp with rfl | hp
        case inl => exact ⟨[], paths, rfl, by rwa [List.append_nil]⟩
        case inr =>
          obtain ⟨front, back, rfl, hn⟩ := hi hp
          refine ⟨q :: front, back, rfl, ?_⟩
          rwa [Path.among_append, Path.among_cons, or_left_comm, ← or_assoc, ← Path.among_cons, ← Path.among_append]
  case mpr =>
    rintro ⟨front, back, rfl, hn⟩
    rw [keepFirst_append, keepFirst_of_not_among back hn]
    exact List.mem_append_right _ List.mem_cons_self

-- What is kept stays if other paths are dropped first.
theorem mem_keepFirst_filter (h : p ∈ keepFirst seen paths) {allows : Path → Bool} :
    p ∈ keepFirst seen (paths.filter allows) ↔ allows p := by
  constructor
  case mp =>
    intro hp
    obtain ⟨front, back, hf, -⟩ := mem_keepFirst_iff.mp hp
    exact List.of_mem_filter (hf ▸ List.mem_append_right front List.mem_cons_self)
  case mpr =>
    intro ha
    obtain ⟨front, back, rfl, hn⟩ := mem_keepFirst_iff.mp h
    refine mem_keepFirst_iff.mpr ⟨front.filter allows, back.filter allows, by simp [ha], ?_⟩
    rw [Path.among_append, not_or] at hn ⊢
    refine ⟨hn.left, fun hf => hn.right ?_⟩
    obtain ⟨q, hq, hs⟩ := hf
    exact ⟨q, List.mem_of_mem_filter hq, hs⟩

theorem keepFirst_sublist : (keepFirst seen paths).Sublist paths := by
  induction paths generalizing seen
  case nil => exact .slnil
  case cons p paths hi =>
    by_cases hp : p.Among seen
    case pos =>
      rw [keepFirst_of_among paths hp]
      exact hi.cons p
    case neg =>
      rw [keepFirst_of_not_among paths hp]
      exact hi.cons_cons p

end KeepFirst

namespace Excludes

variable {x y : Excludes} {path : Path}

-- A directory without a `./` in front of it.
def bare (dir : String) : String :=
  match dir.toList with
  | '.' :: '/' :: rest => String.ofList rest
  | _                  => dir

-- Some pattern fits the directory that holds the file.
def Fits (x : Excludes) (path : Path) : Prop :=
  ∃ pattern ∈ x.patterns, pattern (bare (dirOf path))

theorem matchesDir_iff {dir : String} : x.matchesDir dir ↔ ∃ pattern ∈ x.patterns, pattern (bare dir) := by
  have hb : ((['.', '/'].isPrefixOf? dir.toList).map String.ofList).getD dir = bare dir := by
    unfold bare
    split
    case h_1 rest h => simp [h, List.isPrefixOf?]
    case h_2 h =>
      cases hp : ['.', '/'].isPrefixOf? dir.toList
      case none      => rfl
      case some rest => exact absurd (List.append_eq_of_isPrefixOf?_eq_some hp).symm (h rest)
  rw [matchesDir, hb]
  exact List.any_eq_true

theorem excludesFile_iff : x.excludesFile path ↔ x.Fits path := by
  rw [excludesFile, Bool.and_eq_true, matchesDir_iff]
  refine ⟨And.right, fun h => ⟨?_, h⟩⟩
  obtain ⟨pattern, hp, _⟩ := h
  cases hx : x.patterns <;> simp_all

theorem not_excludesFile_iff : !x.excludesFile path ↔ ¬x.Fits path := by
  rw [← excludesFile_iff, Bool.not_eq_true', Bool.not_eq_true]

theorem Fits.mono (h : x.Fits path) (hs : x.patterns ⊆ y.patterns) : y.Fits path := by
  obtain ⟨pattern, hp, hf⟩ := h
  exact ⟨pattern, hs hp, hf⟩

end Excludes

namespace Target

variable {fs : FileSystem} {text : String}

theorem ofText_tree {root : Path} (h : fs.isDir root) : ofText fs (root.text ++ treeEnding) = .tree root := by
  have hr : (treeRoot? (root.text ++ treeEnding)).filter (fs.isDir ·) = some root := by
    simp [treeRoot?, h]
  rw [ofText, hr]

theorem ofText_file {content : Except Fault (List UInt8)} (ht : treeRoot? text = none)
    (hg : fs.get ⟨text⟩ = .ok (.file content)) : ofText fs text = .file ⟨text⟩ := by
  simp [ofText, ht, FileSystem.isDir, FileSystem.has, hg, Entry.isDir]

theorem ofText_dir (ht : treeRoot? text = none) (hd : fs.isDir ⟨text⟩) : ofText fs text = .dir ⟨text⟩ := by
  simp [ofText, ht, hd]

theorem ofText_package {fault : Fault} (ht : treeRoot? text = none) (hg : fs.get ⟨text⟩ = .error fault) :
    ofText fs text = .package text := by
  simp [ofText, ht, FileSystem.isDir, FileSystem.has, hg]

end Target

namespace FileSystem

-- The source files of a directory that shows all that is in it, in the order of their names.
def sourcesIn (fs : FileSystem) (extensions : List String) (dir : Path) : List Path :=
  match fs.readDir dir with
  | .ok ⟨entries, none⟩ => (((entries.filter (isSource extensions)).map (·.1)).mergeSort (· ≤ ·)).map dir.join
  | _                   => []

variable (fs : FileSystem) (extensions : List String) (dir : Path)

-- Whatever stands in the way of a listing, asking for source files is never halted.
theorem attempt_sourceFiles :
    ∃ found, (fs.sourceFiles extensions dir).attempt = .ok found ∧ found.getD [] = fs.sourcesIn extensions dir := by
  unfold sourceFiles sourcesIn
  cases fs.readDir dir
  case error fault => exact ⟨none, (Running.answers_throwFault fault _).attempt, rfl⟩
  case ok listing  =>
    obtain ⟨entries, _ | fault⟩ := listing
    case some => exact ⟨none, (Running.answers_throwFault fault _).attempt, rfl⟩
    case none =>
      dsimp only
      cases (entries.filter (isSource extensions)).map (·.1)
      case nil  => exact ⟨none, rfl, by simp⟩
      case cons => exact ⟨_, rfl, rfl⟩

variable {fs extensions dir} {path : Path}

theorem mem_sourcesIn :
    path ∈ fs.sourcesIn extensions dir ↔
      ∃ files, (fs.sourceFiles extensions dir).Answers (.ok files) ∧ path ∈ files := by
  obtain ⟨found, hf, hs⟩ := attempt_sourceFiles fs extensions dir
  simp only [← hs, ← Running.attempt_eq_some_iff, hf]
  cases found <;> simp

end FileSystem

-- A file is offered as a target itself, or it is a source file of a directory that a target stands for.
inductive Target.Offers (fs : FileSystem) (env : Environment) (extensions : List String) : Target → Path → Prop
  | file (path : Path) : Offers fs env extensions (.file path) path
  | dir {dir path : Path} {files : List Path}
      (hf : (fs.sourceFiles extensions dir).Answers (.ok files)) (hp : path ∈ files) :
      Offers fs env extensions (.dir dir) path
  | tree {root dir path : Path} {files : List Path} (hd : dir ∈ fs.packageDirs root)
      (hf : (fs.sourceFiles extensions dir).Answers (.ok files)) (hp : path ∈ files) :
      Offers fs env extensions (.tree root) path
  | package {name : String} {dir path : Path} {files : List Path} (hd : env.resolve fs name = .ok dir)
      (hf : (fs.sourceFiles extensions dir).Answers (.ok files)) (hp : path ∈ files) :
      Offers fs env extensions (.package name) path

namespace Query

-- The texts of the targets, of which there is at least one.
def texts (q : Query) : List String :=
  if q.targets.isEmpty then [Target.everything] else q.targets

-- The path is offered by some target of the query.
def Offers (q : Query) (fs : FileSystem) (env : Environment) (path : Path) : Prop :=
  ∃ text ∈ q.texts, (Target.ofText fs text).Offers fs env q.extensions path

-- The files that a target offers, in order.
def offeredBy (q : Query) (fs : FileSystem) (env : Environment) : Target → List Path
  | .file path    => [path]
  | .dir dir      => fs.sourcesIn q.extensions dir
  | .tree root    => (fs.packageDirs root).flatMap (fs.sourcesIn q.extensions)
  | .package name => (env.resolve fs name).toOption.toList.flatMap (fs.sourcesIn q.extensions)

variable {q : Query} {fs : FileSystem} {env : Environment} {target : Target} {path : Path}

theorem filesIn_eq (dir : Path) : q.filesIn fs dir = .ok (fs.sourcesIn q.extensions dir) := by
  obtain ⟨found, hf, hs⟩ := fs.attempt_sourceFiles q.extensions dir
  rw [filesIn, hf, ← hs]
  rfl

theorem mem_offeredBy : path ∈ q.offeredBy fs env target ↔ target.Offers fs env q.extensions path := by
  constructor
  case mp =>
    intro h
    cases target
    case tree root =>
      obtain ⟨dir, hd, h⟩ := List.mem_flatMap.mp h
      obtain ⟨files, hf, hp⟩ := FileSystem.mem_sourcesIn.mp h
      exact .tree hd hf hp
    case dir dir =>
      obtain ⟨files, hf, hp⟩ := FileSystem.mem_sourcesIn.mp h
      exact .dir hf hp
    case file file =>
      cases List.mem_singleton.mp h
      exact .file path
    case package name =>
      obtain ⟨dir, hd, h⟩ := List.mem_flatMap.mp h
      obtain ⟨files, hf, hp⟩ := FileSystem.mem_sourcesIn.mp h
      exact .package (Except.toOption_eq_some_iff.mp (Option.mem_toList.mp hd)) hf hp
  case mpr =>
    intro h
    cases h
    case file             => exact List.mem_singleton_self path
    case dir files hf hp  => exact FileSystem.mem_sourcesIn.mpr ⟨files, hf, hp⟩
    case tree dir files hd hf hp =>
      exact List.mem_flatMap.mpr ⟨dir, hd, FileSystem.mem_sourcesIn.mpr ⟨files, hf, hp⟩⟩
    case package name dir files hr hf hp =>
      have hd : dir ∈ (env.resolve fs name).toOption.toList := by simp [hr]
      exact List.mem_flatMap.mpr ⟨dir, hd, FileSystem.mem_sourcesIn.mpr ⟨files, hf, hp⟩⟩

end Query

namespace Target

-- Directories and trees are of one kind.
inductive Kind
  | file
  | dir
  | package
  deriving DecidableEq, Repr, Inhabited

def kind : Target → Kind
  | file _    => .file
  | dir _     => .dir
  | tree _    => .dir
  | package _ => .package

-- All kinds, in the order in which their targets are taken.
def kinds : List Kind :=
  [.file, .dir, .package]

end Target

namespace Query

variable (q : Query) (fs : FileSystem) (env : Environment)

-- The files that the targets of a kind offer.
def offeredIn (targets : List Target) (kind : Target.Kind) : List Path :=
  (targets.filter (·.kind = kind)).flatMap (q.offeredBy fs env)

section Kinds

variable (targets : List Target)

theorem offeredIn_cons (target : Target) (kind : Target.Kind) :
    q.offeredIn fs env (target :: targets) kind =
      (if target.kind = kind then q.offeredBy fs env target else []) ++ q.offeredIn fs env targets kind := by
  by_cases h : target.kind = kind <;> simp [offeredIn, h]

theorem offeredIn_file : q.offeredIn fs env targets .file = targets.filterMap Target.file? := by
  induction targets
  case nil => rfl
  case cons target targets hi =>
    rw [offeredIn_cons, hi]
    cases target <;> rfl

theorem offeredIn_dir :
    q.offeredIn fs env targets .dir = (targets.flatMap (Target.dirs fs)).flatMap (fs.sourcesIn q.extensions) := by
  induction targets
  case nil => rfl
  case cons target targets hi =>
    rw [offeredIn_cons, hi, List.flatMap_cons, List.flatMap_append]
    cases target <;> simp [Target.kind, Target.dirs, offeredBy]

theorem offeredIn_package :
    q.offeredIn fs env targets .package =
      ((targets.filterMap Target.package?).filterMap fun name => (env.resolve fs name).toOption).flatMap
        (fs.sourcesIn q.extensions) := by
  induction targets
  case nil => rfl
  case cons target targets hi =>
    rw [offeredIn_cons, hi]
    cases target
    case package name =>
      cases h : (env.resolve fs name).toOption <;> simp [Target.kind, Target.package?, offeredBy, h]
    all_goals rfl

theorem flatMap_kinds :
    Target.kinds.flatMap (q.offeredIn fs env targets) =
      targets.filterMap Target.file? ++ (targets.flatMap (Target.dirs fs) ++
        (targets.filterMap Target.package?).filterMap fun name => (env.resolve fs name).toOption).flatMap
          (fs.sourcesIn q.extensions) := by
  simp only [Target.kinds, List.flatMap_cons, List.flatMap_nil, List.append_nil, offeredIn_file, offeredIn_dir,
    offeredIn_package, List.flatMap_append]

end Kinds

-- Every file that some target stands for, kind by kind.
def candidates : List Path :=
  Target.kinds.flatMap (q.offeredIn fs env (q.texts.map (Target.ofText fs)))

-- The candidates that are not excluded.
def allowed : List Path :=
  (q.candidates fs env).filter (!q.excludes.excludesFile ·)

def selected : List Path :=
  keepFirst [] (q.allowed fs env)

theorem offered_eq : q.offered fs env = .ok (q.candidates fs env) := by
  rw [candidates, flatMap_kinds, List.flatMap_def]
  simp only [offered, Except.mapM_eq_ok filesIn_eq]
  rfl

theorem files_eq : q.files fs env = .ok (q.selected fs env) := by
  rw [files, offered_eq]
  rfl

variable {q fs env} {path : Path}

theorem mem_candidates : path ∈ q.candidates fs env ↔ q.Offers fs env path := by
  have hk : ∀ target : Target, target.kind ∈ Target.kinds := by
    intro target
    cases target <;> simp [Target.kind, Target.kinds]
  simp only [candidates, offeredIn, List.mem_flatMap, List.mem_filter, List.mem_map, decide_eq_true_eq, mem_offeredBy]
  constructor
  case mp =>
    rintro ⟨kind, -, target, ⟨⟨text, ht, rfl⟩, -⟩, ho⟩
    exact ⟨text, ht, ho⟩
  case mpr =>
    rintro ⟨text, ht, ho⟩
    exact ⟨_, hk _, _, ⟨⟨text, ht, rfl⟩, rfl⟩, ho⟩

theorem mem_allowed : path ∈ q.allowed fs env ↔ q.Offers fs env path ∧ ¬q.excludes.Fits path := by
  rw [allowed, List.mem_filter, mem_candidates, Excludes.not_excludesFile_iff]

-- The same query with other patterns.
def withExcludes (q : Query) (x : Excludes) : Query :=
  { q with excludes := x }

-- The path is among the files of the query.
def Lists (q : Query) (fs : FileSystem) (env : Environment) (path : Path) : Prop :=
  ∃ files, q.files fs env = .ok files ∧ path ∈ files

theorem lists_iff : q.Lists fs env path ↔ path ∈ q.selected fs env := by
  simp [Lists, files_eq]

-- Without patterns nothing is excluded, and patterns take away just what they fit.
theorem lists_withExcludes {x : Excludes} (h : (q.withExcludes .none).Lists fs env path) :
    (q.withExcludes x).Lists fs env path ↔ !x.excludesFile path := by
  have hn : (q.withExcludes .none).allowed fs env = q.candidates fs env :=
    List.filter_eq_self.mpr fun _ _ => rfl
  rw [lists_iff, selected, hn] at h
  rw [lists_iff]
  exact mem_keepFirst_filter h

theorem among_selected : path.Among (q.selected fs env) ↔ path.Among (q.allowed fs env) := by
  rw [selected, among_keepFirst]
  exact and_iff_left Path.not_among_nil

theorem mem_allowed_of_selected (h : path ∈ q.selected fs env) : path ∈ q.allowed fs env :=
  keepFirst_sublist.subset h

end Query

open Query in
-- A query is never halted. No path is selected twice, none whose directory is excluded, and a path is selected exactly
-- if some target offers it in a spelling that is not excluded. So more patterns never select more paths.
theorem files_selected (q : Query) (fs : FileSystem) (env : Environment) :
    ∃ files, q.files fs env = .ok files ∧
    files.Pairwise (fun path path' => ¬path.same path') ∧
    (∀ path ∈ files, ¬q.excludes.Fits path) ∧
    (∀ path, (∃ path' ∈ files, path'.same path) ↔
      ∃ path', q.Offers fs env path' ∧ ¬q.excludes.Fits path' ∧ path'.same path) ∧
    ∀ more : Excludes, q.excludes.patterns ⊆ more.patterns →
      ∃ files', { q with excludes := more : Query }.files fs env = .ok files' ∧
        ∀ path ∈ files', ∃ path' ∈ files, path'.same path := by
  refine ⟨_, q.files_eq fs env, keepFirst_pairwise, fun path hp => ?fits, fun path => ?among,
    fun more hm => ⟨_, files_eq _ fs env, fun path hp => ?more⟩⟩
  case fits => exact (mem_allowed.mp (mem_allowed_of_selected hp)).right
  case among =>
    refine among_selected.trans ⟨?_, ?_⟩
    · rintro ⟨path', hp, hs⟩
      obtain ⟨ho, hf⟩ := mem_allowed.mp hp
      exact ⟨path', ho, hf, hs⟩
    · rintro ⟨path', ho, hf, hs⟩
      exact ⟨path', mem_allowed.mpr ⟨ho, hf⟩, hs⟩
  case more =>
    obtain ⟨ho, hf⟩ := mem_allowed.mp (mem_allowed_of_selected hp)
    have hq : path ∈ q.allowed fs env := mem_allowed.mpr ⟨ho, fun h => hf (h.mono hm)⟩
    exact among_selected.mpr (Path.among_of_mem hq)

namespace SampleSpellings

def fs : FileSystem where
  root := .dir [("a", .dir [("b", .dir [("x.go", .file (.ok []))] none)] none)] none
  cwd  := []

def query (x : Excludes) : Query :=
  { targets := ["a/b/x.go", "a//b/x.go"], excludes := x, extensions := ["go"] }

-- A pattern that fits the directory in one of the spellings only.
def excludes : Excludes :=
  { patterns := [(· = "a/b")] }

theorem candidates_eq (x : Excludes) : (query x).candidates fs default = [⟨"a/b/x.go"⟩, ⟨"a//b/x.go"⟩] := by
  have hg : fs.get ⟨"a/b/x.go"⟩ = .ok (.file (.ok [])) :=
    FileSystem.get_names (by decide) (by decide) rfl (by decide)
  have hg' : fs.get ⟨"a//b/x.go"⟩ = .ok (.file (.ok [])) :=
    FileSystem.get_names (by decide) (by decide) rfl (by decide)
  have ht : (query x).texts.map (Target.ofText fs) = [.file ⟨"a/b/x.go"⟩, .file ⟨"a//b/x.go"⟩] := by
    simp [Query.texts, query, Target.ofText_file (by decide) hg, Target.ofText_file (by decide) hg']
  rw [Query.candidates, ht]
  rfl

theorem files_none : (query .none).files fs default = .ok [⟨"a/b/x.go"⟩] := by
  rw [Query.files_eq, Query.selected, Query.allowed, candidates_eq]
  decide

theorem files_excludes : (query excludes).files fs default = .ok [⟨"a//b/x.go"⟩] := by
  rw [Query.files_eq, Query.selected, Query.allowed, candidates_eq]
  decide

end SampleSpellings

open SampleSpellings in
-- Excluding the first spelling of a file selects the second.
theorem files_selected_spellings :
    (query .none).files fs default = .ok [⟨"a/b/x.go"⟩] ∧
    (query excludes).files fs default = .ok [⟨"a//b/x.go"⟩] ∧
    ∃ files, (query .none).files fs default = .ok files ∧ ∃ path' ∈ files, path'.same ⟨"a//b/x.go"⟩ := by
  obtain ⟨files, hf, -, -, -, hm⟩ := files_selected (query .none) fs default
  obtain ⟨files', he, hs⟩ := hm excludes (List.nil_subset _)
  cases files_excludes.symm.trans he
  exact ⟨files_none, files_excludes, files, hf, hs ⟨"a//b/x.go"⟩ List.mem_cons_self⟩

end ErrorOrigins
