import ErrorOrigins.Proofs.Selecting

namespace ErrorOrigins

namespace Target

-- What a text means decides its kind.
def kindOf (fs : FileSystem) (text : String) : Kind :=
  (ofText fs text).kind

theorem kinds_split (kind : Kind) :
    ∃ before after, kinds = before ++ kind :: after ∧ kind ∉ before ∧ kind ∉ after := by
  cases kind
  case file    => exact ⟨[], [.dir, .package], rfl, by decide, by decide⟩
  case dir     => exact ⟨[.file], [.package], rfl, by decide, by decide⟩
  case package => exact ⟨[.file, .dir], [], rfl, by decide, by decide⟩

-- Nothing that the target offers is selected.
def Idle (fs : FileSystem) (env : Environment) (q : Query) (target : Target) : Prop :=
  ∀ path, target.Offers fs env q.extensions path → q.excludes.Fits path

section Idle

variable {fs : FileSystem} {env : Environment} {q : Query}

theorem idle_file {path : Path} (h : q.excludes.Fits path) : (file path).Idle fs env q := by
  intro path' ho
  cases ho
  exact h

theorem idle_dir {path : Path} (h : fs.sourcesIn q.extensions path = []) : (dir path).Idle fs env q := by
  intro path' ho
  have hm := Query.mem_offeredBy.mpr ho
  rw [Query.offeredBy, h] at hm
  cases hm

theorem idle_package {name : String} (h : ∀ dir, env.resolve fs name ≠ .ok dir) : (package name).Idle fs env q := by
  intro path ho
  cases ho
  case package _ hd _ => exact absurd hd (h _)

end Idle

end Target

namespace Query

variable {q : Query} {fs : FileSystem} {env : Environment} {text : String} {kind : Target.Kind}

-- The same query for other targets.
def withTargets (q : Query) (texts : List String) : Query :=
  { q with targets := texts }

-- The files that a target offers and that are not excluded.
def allowedBy (q : Query) (fs : FileSystem) (env : Environment) (text : String) : List Path :=
  (q.offeredBy fs env (Target.ofText fs text)).filter (!q.excludes.excludesFile ·)

-- The same for all targets of a kind.
def allowedIn (q : Query) (fs : FileSystem) (env : Environment) (texts : List String) (kind : Target.Kind) :
    List Path :=
  (texts.filter (Target.kindOf fs · = kind)).flatMap (q.allowedBy fs env)

theorem mem_allowedBy {path : Path} :
    path ∈ q.allowedBy fs env text ↔
      (Target.ofText fs text).Offers fs env q.extensions path ∧ ¬q.excludes.Fits path := by
  rw [allowedBy, List.mem_filter, mem_offeredBy, Excludes.not_excludesFile_iff]

theorem allowedBy_of_idle (h : (Target.ofText fs text).Idle fs env q) : q.allowedBy fs env text = [] := by
  apply List.eq_nil_iff_forall_not_mem.mpr
  intro path hp
  obtain ⟨ho, hf⟩ := mem_allowedBy.mp hp
  exact hf (h path ho)

theorem allowed_withTargets {texts : List String} (h : texts ≠ []) :
    (q.withTargets texts).allowed fs env = Target.kinds.flatMap (q.allowedIn fs env texts) := by
  have ht : (q.withTargets texts).texts = texts := by simp [Query.texts, withTargets, h]
  have hk : ∀ kind, ((q.withTargets texts).offeredIn fs env (texts.map (Target.ofText fs)) kind).filter
      (!q.excludes.excludesFile ·) = q.allowedIn fs env texts kind := by
    intro kind
    rw [offeredIn, List.filter_map, List.flatMap_map, List.filter_flatMap]
    rfl
  calc (q.withTargets texts).allowed fs env
    _ = (Target.kinds.flatMap ((q.withTargets texts).offeredIn fs env (texts.map (Target.ofText fs)))).filter
          (!q.excludes.excludesFile ·) := by rw [allowed, candidates, ht]; rfl
    _ = Target.kinds.flatMap (q.allowedIn fs env texts) := by rw [List.filter_flatMap]; simp only [hk]

section Insert

variable (before after : List String)

-- Another target shows among those of its own kind.
theorem allowedIn_insert_self :
    q.allowedIn fs env (before ++ text :: after) (Target.kindOf fs text) =
      q.allowedIn fs env before (Target.kindOf fs text) ++ q.allowedBy fs env text ++
        q.allowedIn fs env after (Target.kindOf fs text) := by
  simp [allowedIn]

theorem allowedIn_insert_other (h : kind ≠ Target.kindOf fs text) :
    q.allowedIn fs env (before ++ text :: after) kind = q.allowedIn fs env (before ++ after) kind := by
  simp [allowedIn, h.symm]

theorem allowedIn_append :
    q.allowedIn fs env (before ++ after) kind = q.allowedIn fs env before kind ++ q.allowedIn fs env after kind := by
  simp [allowedIn]

end Insert

section Changes

variable {texts texts' before after : List String}

theorem files_congr (h : texts ≠ []) (h' : texts' ≠ [])
    (hk : ∀ kind, texts.filter (Target.kindOf fs · = kind) = texts'.filter (Target.kindOf fs · = kind)) :
    (q.withTargets texts).files fs env = (q.withTargets texts').files fs env := by
  have ha : q.allowedIn fs env texts = q.allowedIn fs env texts' := by
    funext kind
    rw [allowedIn, hk kind]
    rfl
  rw [files_eq, files_eq, selected, selected, allowed_withTargets h, allowed_withTargets h', ha]

theorem filter_kindOf_swap {text' : String} (h : Target.kindOf fs text ≠ Target.kindOf fs text') :
    (before ++ text :: text' :: after).filter (Target.kindOf fs · = kind) =
      (before ++ text' :: text :: after).filter (Target.kindOf fs · = kind) := by
  by_cases ht : Target.kindOf fs text = kind
  case pos =>
    have ht' : Target.kindOf fs text' ≠ kind := fun h' => h (ht.trans h'.symm)
    simp [ht, ht']
  case neg => simp [List.filter_cons, ht]

-- The files of one more target stand together, after those of the targets of its kind before it.
theorem allowed_insert (text : String) (h : before ++ after ≠ []) :
    ∃ front back,
      (q.withTargets (before ++ text :: after)).allowed fs env = front ++ q.allowedBy fs env text ++ back ∧
      (q.withTargets (before ++ after)).allowed fs env = front ++ back ∧
      q.allowedIn fs env before (Target.kindOf fs text) ⊆ front := by
  obtain ⟨kinds, kinds', hk, hb, ha⟩ := Target.kinds_split (Target.kindOf fs text)
  have ho : ∀ others : List Target.Kind, Target.kindOf fs text ∉ others →
      others.flatMap (q.allowedIn fs env (before ++ text :: after)) =
        others.flatMap (q.allowedIn fs env (before ++ after)) := by
    intro others hn
    apply List.flatMap_congr
    intro kind hm
    exact allowedIn_insert_other before after fun he => hn (he ▸ hm)
  refine ⟨kinds.flatMap (q.allowedIn fs env (before ++ after)) ++ q.allowedIn fs env before (Target.kindOf fs text),
    q.allowedIn fs env after (Target.kindOf fs text) ++ kinds'.flatMap (q.allowedIn fs env (before ++ after)),
    ?_, ?_, List.subset_append_right _ _⟩
  · rw [allowed_withTargets (by simp), hk, List.flatMap_append, List.flatMap_cons, ho kinds hb, ho kinds' ha,
      allowedIn_insert_self]
    simp only [List.append_assoc]
  · rw [allowed_withTargets h, hk, List.flatMap_append, List.flatMap_cons, allowedIn_append]
    simp only [List.append_assoc]

theorem files_insert (h : before ++ after ≠ [])
    (hs : q.allowedBy fs env text ⊆ q.allowedIn fs env before (Target.kindOf fs text)) :
    (q.withTargets (before ++ text :: after)).files fs env = (q.withTargets (before ++ after)).files fs env := by
  obtain ⟨front, back, hi, ha, hf⟩ := @allowed_insert q fs env before after text h
  rw [files_eq, files_eq, selected, selected, hi, ha]
  apply congrArg Except.ok
  apply keepFirst_drop
  intro path hp
  exact Path.among_of_mem (hf (hs hp))

theorem files_repeat (h : text ∈ before) :
    (q.withTargets (before ++ text :: after)).files fs env = (q.withTargets (before ++ after)).files fs env := by
  apply files_insert
  case h => exact List.append_ne_nil_of_left_ne_nil (List.ne_nil_of_mem h) after
  case hs =>
    have hm : text ∈ before.filter (Target.kindOf fs · = Target.kindOf fs text) := by simp [h]
    exact fun path hp => List.mem_flatMap.mpr ⟨text, hm, hp⟩

theorem files_insert_idle (h : before ++ after ≠ []) (hi : (Target.ofText fs text).Idle fs env q) :
    (q.withTargets (before ++ text :: after)).files fs env = (q.withTargets (before ++ after)).files fs env := by
  apply files_insert h
  rw [allowedBy_of_idle hi]
  exact List.nil_subset _

end Changes

end Query

open Query in
-- Of the targets only the order inside each kind counts, and neither repetitions nor idle targets do.
theorem files_targets (q : Query) (fs : FileSystem) (env : Environment) :
    (∀ texts, ∃ files, (q.withTargets texts).files fs env = .ok files) ∧
    (∀ before text text' after, Target.kindOf fs text ≠ Target.kindOf fs text' →
      (q.withTargets (before ++ text :: text' :: after)).files fs env =
        (q.withTargets (before ++ text' :: text :: after)).files fs env) ∧
    (∀ texts texts', texts ≠ [] → texts' ≠ [] →
      (∀ kind, texts.filter (Target.kindOf fs · = kind) = texts'.filter (Target.kindOf fs · = kind)) →
      (q.withTargets texts).files fs env = (q.withTargets texts').files fs env) ∧
    (∀ before text middle after,
      (q.withTargets (before ++ text :: middle ++ text :: after)).files fs env =
        (q.withTargets (before ++ text :: middle ++ after)).files fs env) ∧
    ∀ before text after, before ++ after ≠ [] → (Target.ofText fs text).Idle fs env q →
      (q.withTargets (before ++ text :: after)).files fs env = (q.withTargets (before ++ after)).files fs env := by
  refine ⟨fun texts => ⟨_, files_eq _ fs env⟩, ?swap, fun texts texts' => files_congr, ?again,
    fun before text after => files_insert_idle⟩
  case swap =>
    intro before text text' after hk
    exact files_congr (by simp) (by simp) fun kind => filter_kindOf_swap hk
  case again =>
    intro before text middle after
    exact files_repeat (by simp)

namespace SampleTargets

def fs : FileSystem where
  root := .dir [("x.go", .file (.ok [])), ("d", .dir [] none), ("e", .dir [("y.go", .file (.ok []))] none)] none
  cwd  := []

def query : Query :=
  { targets := [], excludes := { patterns := [(· = "e")] }, extensions := ["go"] }

theorem ofText_x : Target.ofText fs "x.go" = .file ⟨"x.go"⟩ :=
  Target.ofText_file (by decide) (FileSystem.get_names (by decide) (by decide) rfl (by decide))

theorem get_d : fs.get ⟨"d"⟩ = .ok (.dir [] none) :=
  FileSystem.get_names (by decide) (by decide) rfl (by decide)

theorem ofText_d : Target.ofText fs "d" = .dir ⟨"d"⟩ :=
  Target.ofText_dir (by decide) (FileSystem.isDir_iff.mpr ⟨_, _, get_d⟩)

theorem ofText_y : Target.ofText fs "e/y.go" = .file ⟨"e/y.go"⟩ :=
  Target.ofText_file (by decide) (FileSystem.get_names (by decide) (by decide) rfl (by decide))

theorem ofText_z : Target.ofText fs "z" = .package "z" :=
  Target.ofText_package (by decide) (FileSystem.get_missing (by decide) rfl (by decide) rfl)

-- A directory without source files.
theorem idle_d : (Target.ofText fs "d").Idle fs default query := by
  rw [ofText_d]
  apply Target.idle_dir
  simp [FileSystem.sourcesIn, FileSystem.readDir, get_d, Entry.listing]

-- A file in an excluded directory.
theorem idle_y : (Target.ofText fs "e/y.go").Idle fs default query := by
  rw [ofText_y]
  apply Target.idle_file
  exact Excludes.excludesFile_iff.mp (by decide)

-- A package that is nowhere: there is no module, no workspace and no installation.
theorem idle_z : (Target.ofText fs "z").Idle fs default query := by
  have hg : fs.get (Path.join ⟨""⟩ Module.fileName) = .error .notFound :=
    FileSystem.get_missing (by decide) rfl (by decide) rfl
  have ht : Environment.moduleText? fs ⟨""⟩ = none := by
    simp [Environment.moduleText?, FileSystem.readFile, hg]
  have ha : Path.ancestors ⟨""⟩ = [⟨""⟩] := by decide
  have hm : Environment.module? fs (default : Environment).cwd = none := by
    have hc : (default : Environment).cwd = ⟨""⟩ := rfl
    simp [Environment.module?, hc, ha, ht]
  have hp : Environment.places default fs "z" = [] := by
    have hr : (default : Environment).gopath = [] ∧ (default : Environment).goroot = none := ⟨rfl, rfl⟩
    simp [Environment.places, hm, hr]
  rw [ofText_z]
  apply Target.idle_package
  intro dir hd
  unfold Environment.resolve at hd
  rw [hp] at hd
  cases hd

theorem kinds_ne : Target.kindOf fs "x.go" ≠ Target.kindOf fs "d" := by
  rw [Target.kindOf, Target.kindOf, ofText_x, ofText_d]
  decide

theorem filter_kindOf (kind : Target.Kind) :
    ["x.go", "d", "z"].filter (Target.kindOf fs · = kind) = ["z", "d", "x.go"].filter (Target.kindOf fs · = kind) := by
  have hk : Target.kindOf fs "x.go" = .file ∧ Target.kindOf fs "d" = .dir ∧ Target.kindOf fs "z" = .package := by
    simp [Target.kindOf, ofText_x, ofText_d, ofText_z, Target.kind]
  cases kind <;> simp [hk]

theorem files_x : (query.withTargets ["x.go"]).files fs default = .ok [⟨"x.go"⟩] := by
  have ht : (query.withTargets ["x.go"]).texts.map (Target.ofText fs) = [.file ⟨"x.go"⟩] := by
    simp [Query.texts, Query.withTargets, ofText_x]
  rw [Query.files_eq, Query.selected, Query.allowed, Query.candidates, ht]
  decide

end SampleTargets

open SampleTargets in
-- Of these targets a single one counts, wherever the others stand.
theorem files_targets_sample :
    Target.kindOf fs "x.go" ≠ Target.kindOf fs "d" ∧
    (query.withTargets ["x.go", "d"]).files fs default = (query.withTargets ["d", "x.go"]).files fs default ∧
    (query.withTargets ["x.go", "d", "z"]).files fs default =
      (query.withTargets ["z", "d", "x.go"]).files fs default ∧
    (query.withTargets ["d", "x.go", "e/y.go", "x.go", "z"]).files fs default = .ok [⟨"x.go"⟩] := by
  obtain ⟨-, hs, ho, hr, hi⟩ := files_targets query fs default
  refine ⟨kinds_ne, hs [] "x.go" "d" [] kinds_ne, ho _ _ (by simp) (by simp) filter_kindOf, ?_⟩
  calc (query.withTargets ["d", "x.go", "e/y.go", "x.go", "z"]).files fs default
    _ = (query.withTargets ["d", "x.go", "e/y.go", "z"]).files fs default := hr ["d"] "x.go" ["e/y.go"] ["z"]
    _ = (query.withTargets ["d", "x.go", "e/y.go"]).files fs default :=
          hi ["d", "x.go", "e/y.go"] "z" [] (by simp) idle_z
    _ = (query.withTargets ["d", "x.go"]).files fs default := hi ["d", "x.go"] "e/y.go" [] (by simp) idle_y
    _ = (query.withTargets ["x.go"]).files fs default := hi [] "d" ["x.go"] (by simp) idle_d
    _ = .ok [⟨"x.go"⟩] := files_x

end ErrorOrigins
