import ErrorOrigins.Proofs.PackageSearch

namespace ErrorOrigins

namespace Path

variable {p : Path} {text : String}

theorem join_of_absolute (h : isAbsolute text) : p.join text = ⟨text⟩ := by
  rw [join, if_pos h]

theorem atOrBelow_join (h : ¬isAbsolute text) : (p.join text).AtOrBelow p := by
  by_cases hp : p.text = ""
  case pos =>
    have hc : p.components = [] := by
      obtain ⟨_⟩ := p
      cases hp
      rfl
    rw [AtOrBelow, hc]
    exact List.nil_prefix
  case neg =>
    rw [AtOrBelow, components_join_text hp h]
    exact List.prefix_append _ _

end Path

namespace Environment

-- The directories that packages are looked for in.
inductive Root (env : Environment) (fs : FileSystem) : Path → Prop
  | module {dir : Path} {module : String} (h : Declares fs env.cwd dir module) : Root env fs dir
  | workspace {entry : Path} (h : entry ∈ env.gopath) : Root env fs (entry.join "src")
  | installation {goroot : Path} (h : env.goroot = some goroot) : Root env fs (goroot.join "src")

def Within (env : Environment) (fs : FileSystem) (dir : Path) : Prop :=
  ∃ root, env.Root fs root ∧ dir.AtOrBelow root

-- The name spells out the whole path of a directory. Behind the name of the module, that is all it takes. On its own,
-- it takes some root for the name to be joined to, and no directory of that name in the module.
inductive SpellsOut (env : Environment) (fs : FileSystem) (name : String) : Path → Prop
  | inModule {home : Path} {module text : String} (h : Declares fs env.cwd home module)
      (hn : name = module ++ "/" ++ text) (ha : Path.isAbsolute text) : SpellsOut env fs name ⟨text⟩
  | alone (ha : Path.isAbsolute name) (hr : env.rootPlaces name ≠ [])
      (hm : ∀ place, env.InModule fs name place → ¬fs.isDir place) : SpellsOut env fs name ⟨name⟩

section Roots

variable {env : Environment} {fs : FileSystem} {name : String} {dir place : Path}

theorem mem_rootPlaces_iff : place ∈ env.rootPlaces name ↔
    (∃ entry ∈ env.gopath, (entry.join "src").join name = place) ∨
      ∃ goroot, env.goroot = some goroot ∧ (goroot.join "src").join name = place := by
  rw [rootPlaces, List.mem_append, List.mem_map, Option.mem_toList, Option.map_eq_some_iff]

-- In a workspace or in the installation, everything has one shape.
theorem exists_root_of_mem_rootPlaces (h : place ∈ env.rootPlaces name) :
    ∃ root, env.Root fs root ∧ place = root.join name := by
  obtain ⟨entry, he, rfl⟩ | ⟨goroot, hg, rfl⟩ := mem_rootPlaces_iff.mp h
  · exact ⟨_, .workspace he, rfl⟩
  · exact ⟨_, .installation hg, rfl⟩

theorem InModule.within_or_spellsOut (h : env.InModule fs name dir) :
    env.Within fs dir ∨ env.SpellsOut fs name dir := by
  cases h
  case root hd => exact .inl ⟨dir, .module hd, List.prefix_refl _⟩
  case below home module rest hd hn =>
    by_cases ha : Path.isAbsolute rest
    case pos =>
      rw [Path.join_of_absolute ha]
      exact .inr (.inModule hd hn ha)
    case neg => exact .inl ⟨home, .module hd, Path.atOrBelow_join ha⟩

theorem within_or_spellsOut_of_mem_rootPlaces (h : dir ∈ env.rootPlaces name)
    (hm : ∀ place, env.InModule fs name place → ¬fs.isDir place) :
    env.Within fs dir ∨ env.SpellsOut fs name dir := by
  obtain ⟨root, hr, rfl⟩ : ∃ root, env.Root fs root ∧ dir = root.join name := exists_root_of_mem_rootPlaces h
  by_cases ha : Path.isAbsolute name
  case pos =>
    rw [Path.join_of_absolute ha]
    exact .inr (.alone ha (List.ne_nil_of_mem h) hm)
  case neg => exact .inl ⟨root, hr, Path.atOrBelow_join ha⟩

theorem resolve_of_inModule (h : env.InModule fs name dir) (hd : fs.isDir dir) : env.resolve fs name = .ok dir := by
  rw [resolve_eq_ok_iff, places_eq, modulePlace?_eq_some_iff.mpr h]
  exact ⟨[], env.rootPlaces name, rfl, hd, nofun⟩

-- An absolute name is the same place in every root.
theorem rootPlaces_of_absolute (h : Path.isAbsolute name) (hp : place ∈ env.rootPlaces name) : place = ⟨name⟩ := by
  obtain ⟨entry, -, rfl⟩ | ⟨goroot, -, rfl⟩ := mem_rootPlaces_iff.mp hp <;> exact Path.join_of_absolute h

theorem resolve_of_spellsOut (h : env.SpellsOut fs name dir) (hd : fs.isDir dir) : env.resolve fs name = .ok dir := by
  cases h
  case inModule home module text hm hn ha =>
    have hi := InModule.below text hm hn
    rw [Path.join_of_absolute ha] at hi
    exact resolve_of_inModule hi hd
  case alone ha hr hm =>
    rw [resolve_of_outside hm]
    obtain ⟨place, rest, he⟩ := List.exists_cons_of_ne_nil hr
    have hp : place = ⟨name⟩ := rootPlaces_of_absolute ha (he ▸ List.mem_cons_self)
    rw [he, hp]
    exact ⟨[], rest, rfl, hd, nofun⟩

end Roots

end Environment

open Environment in
-- A package that is found is at or below a root, or else its name spells out the path where it is found. Where a name
-- spells out the path of a directory, that directory is the package, in a root or not.
theorem resolve_within (env : Environment) (fs : FileSystem) (name : String) (dir : Path) :
    (env.resolve fs name = .ok dir → env.Within fs dir ∨ env.SpellsOut fs name dir) ∧
    (env.SpellsOut fs name dir → fs.isDir dir → env.resolve fs name = .ok dir) := by
  refine ⟨fun h => ?found, resolve_of_spellsOut⟩
  case found =>
    by_cases hm : ∃ place, env.InModule fs name place ∧ fs.isDir place
    case pos =>
      obtain ⟨place, hp, hd⟩ := hm
      have he : place = dir := Except.ok.inj ((resolve_of_inModule hp hd).symm.trans h)
      rw [← he]
      exact hp.within_or_spellsOut
    case neg =>
      have hm' : ∀ place, env.InModule fs name place → ¬fs.isDir place := fun place hp hd => hm ⟨place, hp, hd⟩
      obtain ⟨before, after, he, -, -⟩ := (resolve_of_outside hm').mp h
      have hr : dir ∈ env.rootPlaces name := he ▸ List.mem_append_right before List.mem_cons_self
      exact within_or_spellsOut_of_mem_rootPlaces hr hm'

namespace SampleSearch

open Environment

theorem isDir_g : (fs []).isDir ⟨"/g"⟩ := by
  rw [FileSystem.isDir_iff]
  exact ⟨_, none, FileSystem.get_names (by decide) (by decide) rfl (by decide)⟩

theorem spellsOut_inModule : env.SpellsOut (fs []) "m//g" ⟨"/g"⟩ :=
  .inModule (declares []) rfl (by decide)

-- The name of a package of the module starts with the name of the module.
theorem not_inModule_g (place : Path) : ¬env.InModule (fs []) "/g" place := by
  intro hp
  cases hp
  case root hd =>
    have hm : "/g" = "m" := (hd.unique (declares [])).right
    exact absurd hm (by decide)
  case below module rest hd hn =>
    obtain ⟨-, rfl⟩ := (declares []).unique hd
    have hl := congrArg String.toList hn
    simp at hl

theorem spellsOut_alone : env.SpellsOut (fs []) "/g" ⟨"/g"⟩ :=
  .alone (by decide) (by decide) fun place hp => absurd hp (not_inModule_g place)

theorem not_spellsOut_lib : ¬env.SpellsOut (fs []) "m/lib" ⟨"/w/lib"⟩ := by
  generalize hd : (⟨"/w/lib"⟩ : Path) = dir
  intro hs
  cases hs
  case inModule hn _ =>
    cases hd
    have hl := congrArg String.length hn
    have hs : "m/lib".length < "/w/lib".length := by decide
    simp only [String.length_append] at hl
    omega
  case alone => exact absurd hd (by decide)

theorem root_cases {root : Path} (h : env.Root (fs []) root) : root = ⟨"/w"⟩ ∨ root = ⟨"/g/src"⟩ := by
  cases h
  case module hd       => exact .inl (hd.unique (declares [])).left
  case workspace he    => exact .inr (by rw [List.mem_singleton.mp he]; rfl)
  case installation hg => cases hg

end SampleSearch

open SampleSearch Environment in
-- Inside the module, behind its name, and on its own.
theorem resolve_within_sample :
    env.Within (fs []) ⟨"/w/lib"⟩ ∧
    env.resolve (fs []) "m//g" = .ok ⟨"/g"⟩ ∧
    env.resolve (fs []) "/g" = .ok ⟨"/g"⟩ := by
  refine ⟨?lib, ?inModule, ?alone⟩
  case lib =>
    have hi : env.InModule (fs []) "m/lib" ⟨"/w/lib"⟩ := .below "lib" (declares []) rfl
    have hr := resolve_of_inModule hi (SampleSearch.isDir [] _ (by decide))
    exact ((resolve_within env (fs []) "m/lib" ⟨"/w/lib"⟩).left hr).resolve_right not_spellsOut_lib
  case inModule => exact (resolve_within env (fs []) "m//g" ⟨"/g"⟩).right spellsOut_inModule isDir_g
  case alone    => exact (resolve_within env (fs []) "/g" ⟨"/g"⟩).right spellsOut_alone isDir_g

open SampleSearch Environment in
-- A package that is found outside of all roots.
theorem resolve_outside_roots :
    env.resolve (fs []) "m//g" = .ok ⟨"/g"⟩ ∧ ¬env.Within (fs []) ⟨"/g"⟩ := by
  refine ⟨resolve_of_spellsOut spellsOut_inModule isDir_g, ?_⟩
  rintro ⟨root, hr, hb⟩
  obtain rfl | rfl := root_cases hr
  · exact absurd hb (by decide)
  · exact absurd hb (by decide)

end ErrorOrigins
