import ErrorOrigins.Files.Package
import ErrorOrigins.Proofs.Parents
import ErrorOrigins.Source.Generated

namespace ErrorOrigins

namespace Path

-- The path is the directory or leads on from it, component by component.
def AtOrBelow (p dir : Path) : Prop :=
  dir.components <+: p.components

instance (p dir : Path) : Decidable (p.AtOrBelow dir) :=
  inferInstanceAs (Decidable (_ <+: _))

-- The directory is further up than the path.
def StrictlyAbove (dir p : Path) : Prop :=
  ∃ c rest, p.components = dir.components ++ c :: rest

theorem not_strictlyAbove {p dir : Path} (h : dir.AtOrBelow p) : ¬dir.StrictlyAbove p := by
  rintro ⟨c, rest, hc⟩
  have hl := h.length_le
  rw [hc, List.length_append, List.length_cons] at hl
  omega

theorem ancestors_of_parent {p q : Path} (h : p.parent? = some q) : p.ancestors = p :: q.ancestors := by
  rw [ancestors_eq, h]
  rfl

end Path

namespace Environment

-- In the directory there is a `go.mod` file that can be read, with this text.
def HasModuleFile (fs : FileSystem) (dir : Path) (text : String) : Prop :=
  ∃ content, fs.get (dir.join "go.mod") = .ok (.file (.ok content)) ∧ Text.decodeUtf8 content = .ok text.toList

-- The nearest `go.mod` file that can be read, from a directory upwards: where it is, and its text.
inductive Encloses (fs : FileSystem) : Path → Path → String → Prop
  | here {dir : Path} {text : String} (h : HasModuleFile fs dir text) : Encloses fs dir dir text
  | above {start up dir : Path} {text : String} (hn : ∀ text', ¬HasModuleFile fs start text')
      (hp : start.parent? = some up) (h : Encloses fs up dir text) : Encloses fs start dir text

-- The nearest `go.mod` file declares this module.
def Declares (fs : FileSystem) (start dir : Path) (module : String) : Prop :=
  ∃ text, Encloses fs start dir text ∧ Module.name? text = some module

section Module

variable {fs fs' : FileSystem} {start dir : Path} {text : String}

theorem moduleText?_eq_some_iff : moduleText? fs dir = some text ↔ HasModuleFile fs dir text := by
  have ht : ∀ chars, some (String.ofList chars) = some text ↔ text.toList = chars := by
    intro chars
    rw [Option.some.injEq]
    constructor <;> rintro rfl <;> simp
  simp only [moduleText?, Option.bind_eq_bind, Option.bind_eq_some_iff, Except.toOption_eq_some_iff,
    FileSystem.readFile_eq_ok_iff, HasModuleFile, Option.pure_def, ht, exists_eq_right']
  rfl

-- The nearest module file, whether it declares a module or not.
def moduleFile? (fs : FileSystem) (start : Path) : Option (Path × String) :=
  start.ancestors.findSome? fun dir => (moduleText? fs dir).map (dir, ·)

theorem moduleFile?_of_some (h : moduleText? fs start = some text) : moduleFile? fs start = some (start, text) := by
  rw [moduleFile?, Path.ancestors_eq, List.findSome?_cons, h]
  rfl

theorem moduleFile?_of_none (h : moduleText? fs start = none) :
    moduleFile? fs start = start.parent?.bind (moduleFile? fs) := by
  rw [moduleFile?, Path.ancestors_eq, List.findSome?_cons, h]
  cases start.parent? <;> rfl

theorem encloses_iff : Encloses fs start dir text ↔ moduleFile? fs start = some (dir, text) := by
  constructor
  case mp =>
    intro h
    induction h
    case here h => exact moduleFile?_of_some (moduleText?_eq_some_iff.mpr h)
    case above start up dir text hn hp _ hi =>
      have hm : moduleText? fs start = none :=
        Option.eq_none_iff_forall_ne_some.mpr fun text' ht => hn text' (moduleText?_eq_some_iff.mp ht)
      rw [moduleFile?_of_none hm, hp]
      exact hi
  case mpr =>
    induction start using Path.parent_induction
    case step start hi =>
      cases hm : moduleText? fs start
      case some text' =>
        rw [moduleFile?_of_some hm]
        intro h
        cases h
        exact .here (moduleText?_eq_some_iff.mp hm)
      case none =>
        have hn : ∀ text', ¬HasModuleFile fs start text' :=
          fun text' ht => nomatch hm.symm.trans (moduleText?_eq_some_iff.mpr ht)
        rw [moduleFile?_of_none hm]
        cases hp : start.parent?
        case none    => exact nofun
        case some up => exact fun h => .above hn hp (hi up hp h)

theorem module?_eq_some_iff {module : String} :
    module? fs start = some (dir, module) ↔ Declares fs start dir module := by
  simp only [module?, Declares, encloses_iff, Option.bind_eq_bind, Option.bind_eq_some_iff]
  constructor
  case mp =>
    rintro ⟨⟨dir, text⟩, hf, module, hm, he⟩
    cases he
    exact ⟨text, hf, hm⟩
  case mpr =>
    rintro ⟨text, hf, hm⟩
    exact ⟨(dir, text), hf, module, hm, rfl⟩

theorem Encloses.atOrBelow (h : Encloses fs start dir text) : start.AtOrBelow dir := by
  induction h
  case here => exact List.prefix_refl _
  case above hp _ hi =>
    obtain ⟨c, hc⟩ := Path.components_parent hp
    rw [Path.AtOrBelow, hc]
    exact hi.trans (List.prefix_append _ _)

end Module

-- Where the module around the current directory has the package.
inductive InModule (env : Environment) (fs : FileSystem) (name : String) : Path → Prop
  | root {dir : Path} (h : Declares fs env.cwd dir name) : InModule env fs name dir
  | below {dir : Path} {module : String} (rest : String) (h : Declares fs env.cwd dir module)
      (hn : name = module ++ "/" ++ rest) : InModule env fs name (dir.join rest)

-- Where the workspaces and the installation have the package.
def rootPlaces (env : Environment) (name : String) : List Path :=
  env.gopath.map (fun entry => (entry.join "src").join name) ++
    (env.goroot.map fun goroot => (goroot.join "src").join name).toList

-- Where a package is looked for.
inductive Candidates (env : Environment) (fs : FileSystem) (name : String) : List Path → Prop
  | inside {dir : Path} (h : env.InModule fs name dir) : Candidates env fs name (dir :: env.rootPlaces name)
  | outside (h : ∀ dir, ¬env.InModule fs name dir) : Candidates env fs name (env.rootPlaces name)

section Candidates

variable {env : Environment} {fs : FileSystem} {name module : String} {root dir : Path} {dirs : List Path}

theorem ne_append_slash (module rest : String) : module ≠ module ++ "/" ++ rest := by
  intro h
  have hl := congrArg String.length h
  simp only [String.length_append] at hl
  have hs : "/".length = 1 := rfl
  omega

theorem placeInModule?_eq_some_iff :
    placeInModule? root module name = some dir ↔
      name = module ∧ dir = root ∨ ∃ rest, name = module ++ "/" ++ rest ∧ dir = root.join rest := by
  rw [placeInModule?]
  split
  case isTrue hn =>
    subst hn
    have hs : ¬∃ rest, name = name ++ "/" ++ rest ∧ dir = root.join rest := by
      rintro ⟨rest, hr, -⟩
      exact ne_append_slash name rest hr
    rw [or_iff_left hs, and_iff_right rfl, Option.some.injEq, eq_comm]
  case isFalse hn =>
    simp only [Option.bind_eq_bind, Option.bind_eq_some_iff, hn, false_and, false_or,
      List.isPrefixOf?_eq_some_iff_append_eq]
    constructor
    case mp =>
      rintro ⟨rest, hr, he⟩
      refine ⟨String.ofList rest, String.toList_inj.mp (by simp [← hr]), (Option.some.inj he).symm⟩
    case mpr =>
      rintro ⟨rest, rfl, rfl⟩
      exact ⟨rest.toList, by simp, by simp⟩

-- The place in the module, as it is computed.
def modulePlace? (env : Environment) (fs : FileSystem) (name : String) : Option Path :=
  (module? fs env.cwd).bind fun (root, module) => placeInModule? root module name

theorem modulePlace?_eq_some_iff : env.modulePlace? fs name = some dir ↔ env.InModule fs name dir := by
  simp only [modulePlace?, Option.bind_eq_some_iff, placeInModule?_eq_some_iff, Prod.exists, module?_eq_some_iff]
  constructor
  case mp =>
    rintro ⟨root, module, hd, ⟨rfl, rfl⟩ | ⟨rest, hn, rfl⟩⟩
    · exact .root hd
    · exact .below rest hd hn
  case mpr =>
    rintro (hd | ⟨rest, hd, hn⟩)
    · exact ⟨_, _, hd, .inl ⟨rfl, rfl⟩⟩
    · exact ⟨_, _, hd, .inr ⟨rest, hn, rfl⟩⟩

theorem places_eq : env.places fs name = (env.modulePlace? fs name).toList ++ env.rootPlaces name := by
  rw [places, rootPlaces, List.map_append]
  cases env.goroot <;> rfl

theorem candidates_iff : env.Candidates fs name dirs ↔ dirs = env.places fs name := by
  rw [places_eq]
  constructor
  case mp =>
    intro h
    cases h
    case inside h => rw [modulePlace?_eq_some_iff.mpr h]; rfl
    case outside h =>
      have hn : env.modulePlace? fs name = none :=
        Option.eq_none_iff_forall_ne_some.mpr fun dir hd => h dir (modulePlace?_eq_some_iff.mp hd)
      rw [hn]
      rfl
  case mpr =>
    rintro rfl
    cases hm : env.modulePlace? fs name
    case some dir => exact .inside (modulePlace?_eq_some_iff.mp hm)
    case none =>
      refine .outside fun dir hd => ?_
      rw [modulePlace?_eq_some_iff.mpr hd] at hm
      cases hm

-- The first of some paths that leads to a directory.
def First (fs : FileSystem) (dirs : List Path) (dir : Path) : Prop :=
  ∃ before after, dirs = before ++ dir :: after ∧ fs.isDir dir ∧ ∀ dir' ∈ before, ¬fs.isDir dir'

theorem find?_eq_some_iff_first : dirs.find? (fs.isDir ·) = some dir ↔ First fs dirs dir := by
  rw [List.find?_eq_some_iff_append, First]
  constructor
  case mp =>
    rintro ⟨hd, before, after, he, hb⟩
    exact ⟨before, after, he, hd, by simpa using hb⟩
  case mpr =>
    rintro ⟨before, after, he, hd, hb⟩
    exact ⟨hd, before, after, he, by simpa using hb⟩

theorem resolve_eq_ok_iff : env.resolve fs name = .ok dir ↔ First fs (env.places fs name) dir := by
  rw [← find?_eq_some_iff_first]
  unfold resolve
  split
  case h_1 dir' hf => rw [hf, Except.ok.injEq, Option.some.injEq]
  case h_2 hf      => rw [hf]; exact ⟨nofun, nofun⟩

theorem resolve_eq_error_iff :
    (∃ e, env.resolve fs name = .error e ∧ e.kind = .packageNotFound) ↔ ∀ dir ∈ env.places fs name, ¬fs.isDir dir := by
  rw [← List.find?_eq_none]
  unfold resolve
  split
  case h_1 dir' hf => simp [hf]
  case h_2 hf      => exact ⟨fun _ => hf, fun _ => ⟨_, rfl, rfl⟩⟩

theorem resolve_of_outside (h : ∀ place, env.InModule fs name place → ¬fs.isDir place) :
    env.resolve fs name = .ok dir ↔ First fs (env.rootPlaces name) dir := by
  rw [resolve_eq_ok_iff, ← find?_eq_some_iff_first, ← find?_eq_some_iff_first, places_eq]
  cases hm : env.modulePlace? fs name
  case none => rfl
  case some place =>
    have hp : ¬fs.isDir place := h place (modulePlace?_eq_some_iff.mp hm)
    rw [Option.toList_some, List.singleton_append, List.find?_cons_of_neg hp]

theorem Declares.unique {start dir' : Path} {module' : String} (h : Declares fs start dir module)
    (h' : Declares fs start dir' module') : dir = dir' ∧ module = module' := by
  have he := (module?_eq_some_iff.mpr h).symm.trans (module?_eq_some_iff.mpr h')
  exact Prod.mk.inj (Option.some.inj he)

theorem ne_slash_append {text : String} (h : ¬Path.isAbsolute text) (rest : String) : text ≠ "/" ++ rest := by
  rintro rfl
  exact h (by simp [Path.isAbsolute])

-- A name that goes on after the name of the module, but not with a slash, is no package of the module.
theorem not_inModule_of_extends {extra : String} (h : Declares fs env.cwd root module) (hn : name = module ++ extra)
    (he : extra ≠ "") (hs : ∀ rest, extra ≠ "/" ++ rest) (place : Path) : ¬env.InModule fs name place := by
  intro hp
  cases hp
  case root hd =>
    obtain ⟨-, rfl⟩ := h.unique hd
    have hl := congrArg String.toList hn
    exact he (String.toList_eq_nil_iff.mp (by simpa using hl))
  case below rest hd hr =>
    obtain ⟨-, rfl⟩ := h.unique hd
    have hc := hn.symm.trans hr
    rw [String.append_assoc] at hc
    exact hs rest (by simpa using hc)

end Candidates

section Agreement

variable {env : Environment} {fs fs' : FileSystem} {start home : Path} {text name : String}

-- The module files are the same, except for those further up than a directory.
def AgreeUpTo (fs fs' : FileSystem) (start home : Path) : Prop :=
  ∀ dir ∈ start.ancestors, ¬dir.StrictlyAbove home → ∀ text, HasModuleFile fs' dir text ↔ HasModuleFile fs dir text

theorem Encloses.of_agreeUpTo (h : Encloses fs start home text) (ha : AgreeUpTo fs fs' start home) :
    Encloses fs' start home text := by
  induction h
  case here dir text h =>
    have hm : dir ∈ dir.ancestors := List.mem_cons_self
    exact .here ((ha dir hm (Path.not_strictlyAbove (List.prefix_refl _)) text).mpr h)
  case above start up home text hn hp hu hi =>
    have hm : start ∈ start.ancestors := List.mem_cons_self
    have hb : start.AtOrBelow home := (Encloses.above hn hp hu).atOrBelow
    refine .above (fun text' ht => hn text' ?_) hp (hi fun dir hd => ?_)
    · exact (ha start hm (Path.not_strictlyAbove hb) text').mp ht
    · refine ha dir ?_
      rw [Path.ancestors_of_parent hp]
      exact List.mem_cons_of_mem start hd

theorem resolve_congr (h : Encloses fs env.cwd home text) (ha : AgreeUpTo fs fs' env.cwd home)
    (hd : ∀ dir ∈ env.places fs name, fs'.isDir dir = fs.isDir dir) :
    env.resolve fs' name = env.resolve fs name := by
  have hf : moduleFile? fs' env.cwd = moduleFile? fs env.cwd := by
    rw [encloses_iff.mp h, encloses_iff.mp (h.of_agreeUpTo ha)]
  have hm : module? fs' env.cwd = module? fs env.cwd := by
    rw [moduleFile?, moduleFile?] at hf
    rw [module?, module?, hf]
  have hp : env.places fs' name = env.places fs name := by
    rw [places_eq, places_eq, modulePlace?, modulePlace?, hm]
  have hs : (env.places fs name).find? (fs'.isDir ·) = (env.places fs name).find? (fs.isDir ·) := by
    rw [← List.head?_filter, ← List.head?_filter, List.filter_congr hd]
  unfold resolve
  rw [hp, hs]

end Agreement

end Environment

open Environment in
-- A package is in the first directory of its candidates that exists, and there is none exactly if it is not found. A
-- name that goes on after the name of the module without a slash is not looked for in the module, a place in the module
-- that is no directory is passed over, and module files above the nearest one make no difference.
theorem resolve_first (env : Environment) (fs : FileSystem) (name : String) :
    (∃ dirs, env.Candidates fs name dirs) ∧
    (∀ dirs, env.Candidates fs name dirs →
      (∀ dir, env.resolve fs name = .ok dir ↔ First fs dirs dir) ∧
      ((∃ e, env.resolve fs name = .error e ∧ e.kind = .packageNotFound) ↔ ∀ dir ∈ dirs, ¬fs.isDir dir)) ∧
    (∀ home module extra, Declares fs env.cwd home module → name = module ++ extra → extra ≠ "" →
      (∀ rest, extra ≠ "/" ++ rest) →
      ∀ dir, env.resolve fs name = .ok dir ↔ First fs (env.rootPlaces name) dir) ∧
    (∀ place, env.InModule fs name place → ¬fs.isDir place →
      ∀ dir, env.resolve fs name = .ok dir ↔ First fs (env.rootPlaces name) dir) ∧
    (∀ home text fs' dirs, Encloses fs env.cwd home text → AgreeUpTo fs fs' env.cwd home →
      env.Candidates fs name dirs → (∀ dir ∈ dirs, fs'.isDir dir = fs.isDir dir) →
      env.resolve fs' name = env.resolve fs name) := by
  refine ⟨⟨_, candidates_iff.mpr rfl⟩, fun dirs hc => ?first, fun home module extra hd hn he hs dir => ?longer,
    fun place hp hd dir => ?missing, fun home text fs' dirs he ha hc hd => ?other⟩
  case first =>
    rw [candidates_iff.mp hc]
    exact ⟨fun dir => resolve_eq_ok_iff, resolve_eq_error_iff⟩
  case longer =>
    have hp := not_inModule_of_extends hd hn he hs
    exact resolve_of_outside fun place h => absurd h (hp place)
  case missing =>
    refine resolve_of_outside fun place' hp' => ?_
    have hu : place' = place := by
      have h := (modulePlace?_eq_some_iff.mpr hp').symm.trans (modulePlace?_eq_some_iff.mpr hp)
      exact Option.some.inj h
    rw [hu]
    exact hd
  case other =>
    rw [candidates_iff.mp hc] at hd
    exact resolve_congr he ha hd

namespace SampleSearch

open Environment

-- A module `m` in a directory `w`, with a module file above it, and a workspace `g`.
def fs (outer : List UInt8) : FileSystem where
  root := .dir [
    ("go.mod", .file (.ok outer)),
    ("w", .dir [("go.mod", .file (.ok (Generated.asciiBytes "module m"))), ("lib", .dir [] none)] none),
    ("g", .dir [("src", .dir [("mx", .dir [] none), ("m", .dir [("gone", .dir [] none)] none)] none)] none)] none
  cwd  := []

def env : Environment :=
  { cwd := ⟨"/w/lib"⟩, gopath := [⟨"/g"⟩], goroot := none }

section Facts

variable (outer : List UInt8)

theorem hasModuleFile_w (text : String) : HasModuleFile (fs outer) ⟨"/w"⟩ text ↔ text = "module m" := by
  have hg : (fs outer).get (Path.join ⟨"/w"⟩ "go.mod") = .ok (.file (.ok (Generated.asciiBytes "module m"))) :=
    FileSystem.get_names (by decide) (by decide) rfl (by decide)
  have hd : Text.decodeUtf8 (Generated.asciiBytes "module m") = .ok "module m".toList := by
    simp [Generated.asciiBytes, Text.decodeUtf8, Text.decodeUtf8.go, Text.decodeChar?]
  constructor
  case mp =>
    rintro ⟨content, hc, ht⟩
    cases hg.symm.trans hc
    exact String.toList_inj.mp (Except.ok.inj (ht.symm.trans hd))
  case mpr =>
    rintro rfl
    exact ⟨_, hg, hd⟩

theorem not_hasModuleFile_lib (text : String) : ¬HasModuleFile (fs outer) ⟨"/w/lib"⟩ text := by
  rintro ⟨content, hc, -⟩
  have hg : (fs outer).get (Path.join ⟨"/w/lib"⟩ "go.mod") = .error .notFound :=
    @FileSystem.get_missing_below _ _ ["w", "lib"] "go.mod" _ none (by decide) rfl (by decide) rfl rfl
  cases hg.symm.trans hc

theorem encloses : Encloses (fs outer) env.cwd ⟨"/w"⟩ "module m" :=
  .above (not_hasModuleFile_lib outer) (by decide) (.here ((hasModuleFile_w outer _).mpr rfl))

theorem declares : Declares (fs outer) env.cwd ⟨"/w"⟩ "m" :=
  ⟨"module m", encloses outer, by decide⟩

theorem isDir : ∀ path ∈ [⟨"/w/lib"⟩, ⟨"/g/src/mx"⟩, ⟨"/g/src/m/gone"⟩], (fs outer).isDir path := by
  simp only [List.forall_mem_cons, FileSystem.isDir_iff]
  refine ⟨⟨[], none, ?_⟩, ⟨[], none, ?_⟩, ⟨[], none, ?_⟩, nofun⟩ <;>
    exact FileSystem.get_names (by decide) (by decide) rfl (by decide)

-- What is not there.
theorem not_isDir : ∀ path ∈ [⟨"/w/gone"⟩, ⟨"/g/src/mz"⟩, ⟨"/g/src/m/lib"⟩], ¬(fs outer).isDir path := by
  simp only [List.forall_mem_cons]
  refine ⟨?gone, ?mz, ?lib, nofun⟩ <;> apply FileSystem.not_isDir_of_error
  case gone => exact @FileSystem.get_missing_below _ _ ["w"] "gone" _ none (by decide) rfl (by decide) rfl rfl
  case mz   => exact @FileSystem.get_missing_below _ _ ["g", "src"] "mz" _ none (by decide) rfl (by decide) rfl rfl
  case lib  =>
    exact @FileSystem.get_missing_below _ _ ["g", "src", "m"] "lib" _ none (by decide) rfl (by decide) rfl rfl

end Facts

theorem agreeUpTo (outer outer' : List UInt8) : AgreeUpTo (fs outer) (fs outer') env.cwd ⟨"/w"⟩ := by
  have ha : env.cwd.ancestors = [⟨"/w/lib"⟩, ⟨"/w"⟩, ⟨"/"⟩] := by decide
  simp only [AgreeUpTo, ha, List.forall_mem_cons]
  refine ⟨fun _ text => ?lib, fun _ text => ?w, fun hn => ?root, nofun⟩
  case lib  => exact iff_of_false (not_hasModuleFile_lib outer' text) (not_hasModuleFile_lib outer text)
  case w    => exact (hasModuleFile_w outer' text).trans (hasModuleFile_w outer text).symm
  case root => exact absurd ⟨.name "w", [], by decide⟩ hn

end SampleSearch

open SampleSearch Environment in
theorem resolve_first_sample :
    env.resolve (fs []) "m/lib" = .ok ⟨"/w/lib"⟩ ∧
    env.resolve (fs (Generated.asciiBytes "module m/lib")) "m/lib" = env.resolve (fs []) "m/lib" ∧
    env.resolve (fs []) "mx" = .ok ⟨"/g/src/mx"⟩ ∧
    env.resolve (fs []) "m/gone" = .ok ⟨"/g/src/m/gone"⟩ ∧
    ∃ e, env.resolve (fs []) "mz" = .error e ∧ e.kind = .packageNotFound := by
  have hd := SampleSearch.isDir
  have hn := SampleSearch.not_isDir
  have hc : env.Candidates (fs []) "m/lib" [⟨"/w/lib"⟩, ⟨"/g/src/m/lib"⟩] :=
    .inside (.below "lib" (declares []) rfl)
  have hz : env.Candidates (fs []) "mz" [⟨"/g/src/mz"⟩] := by
    have hs : ∀ rest, "z" ≠ "/" ++ rest := ne_slash_append (by decide)
    exact .outside (not_inModule_of_extends (declares []) rfl (by decide) hs)
  refine ⟨?lib, ?outer, ?mx, ?gone, ?mz⟩
  case lib =>
    obtain ⟨-, h, -⟩ := resolve_first env (fs []) "m/lib"
    exact ((h _ hc).left _).mpr ⟨[], _, rfl, hd [] _ (by decide), nofun⟩
  case outer =>
    obtain ⟨-, -, -, -, h⟩ := resolve_first env (fs []) "m/lib"
    refine h _ _ _ _ (encloses []) (agreeUpTo _ _) hc ?_
    simp only [List.forall_mem_cons]
    refine ⟨?_, ?_, nofun⟩
    · rw [hd _ _ (by decide), hd _ _ (by decide)]
    · rw [Bool.eq_false_iff.mpr (hn _ _ (by decide)), Bool.eq_false_iff.mpr (hn _ _ (by decide))]
  case mx =>
    obtain ⟨-, -, h, -⟩ := resolve_first env (fs []) "mx"
    have hs : ∀ rest, "x" ≠ "/" ++ rest := ne_slash_append (by decide)
    exact (h _ _ _ (declares []) rfl (by decide) hs _).mpr ⟨[], [], rfl, hd [] _ (by decide), nofun⟩
  case gone =>
    obtain ⟨-, -, -, h, -⟩ := resolve_first env (fs []) "m/gone"
    have hp : env.InModule (fs []) "m/gone" ⟨"/w/gone"⟩ := .below "gone" (declares []) rfl
    exact (h _ hp (hn [] _ (by decide)) _).mpr ⟨[], [], rfl, hd [] _ (by decide), nofun⟩
  case mz =>
    obtain ⟨-, h, -⟩ := resolve_first env (fs []) "mz"
    exact (h _ hz).right.mpr (List.forall_mem_singleton.mpr (hn [] _ (by decide)))

end ErrorOrigins
