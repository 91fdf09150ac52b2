import ErrorOrigins.Proofs.Merging

namespace ErrorOrigins

-- Why a file has no tree. A generated file is not looked at any further.
inductive Unusable (fs : FileSystem) (path : Path) : Prop
  | unreadable (fault : Fault) (hr : fs.readFile path = .error fault)
  | generated (content : List UInt8) (hr : fs.readFile path = .ok content) (hg : Generated.isGenerated content)
  | noText (content : List UInt8) (offset : Nat) (hr : fs.readFile path = .ok content)
      (hg : ¬Generated.isGenerated content) (hd : Text.decodeUtf8 content = .error offset)
  | noGo (content : List UInt8) (chars : List Char) (hr : fs.readFile path = .ok content)
      (hg : ¬Generated.isGenerated content) (hd : Text.decodeUtf8 content = .ok chars)
      (ht : Go.readText chars = none)

section Loading

variable {firstError : Go.ErrorFinder} {fs : FileSystem} {path : Path}

theorem tree?_eq_none_iff : fs.tree? path = none ↔ Unusable fs path := by
  constructor
  case mp =>
    intro h
    cases hr : fs.readFile path
    case error fault => exact .unreadable fault hr
    case ok content  =>
      by_cases hg : Generated.isGenerated content
      case pos => exact .generated content hr hg
      cases hd : Text.decodeUtf8 content
      case error offset => exact .noText content offset hr hg hd
      case ok chars     =>
        refine .noGo content chars hr hg hd (Option.eq_none_iff_forall_ne_some.mpr ?_)
        simpa [FileSystem.tree?, hr, hg, hd] using h
  case mpr =>
    intro h
    cases h
    case unreadable hr    => simp [FileSystem.tree?, hr]
    case generated hr hg  => simp [FileSystem.tree?, hr, hg]
    case noText hr hg hd  => simp [FileSystem.tree?, hr, hg, hd]
    case noGo hr hg hd ht => simp [FileSystem.tree?, hr, hg, hd, ht]

theorem exists_loadFile_error_iff : (∃ e, (loadFile firstError fs path).Answers (.error e)) ↔ Unusable fs path := by
  rw [← Running.attempt_eq_none_iff, attempt_loadFile, Except.ok.injEq, tree?_eq_none_iff]

theorem filterMap_tree?_insert (h : Unusable fs path) (xs ys : List Path) :
    (xs ++ path :: ys).filterMap fs.tree? = (xs ++ ys).filterMap fs.tree? := by
  rw [List.filterMap_append, List.filterMap_cons, tree?_eq_none_iff.mpr h, List.filterMap_append]

end Loading

section Reports

variable (x : Services) (parallel : Bool) (fs : FileSystem) (paths : List Path)

-- The findings of some files.
def auditFiles : Except Halt Findings :=
  loadTrees x parallel fs paths >>= audit x.shares parallel

-- The diagnostics of some files.
def diagnoseFiles : Except Halt (List Diagnostic) :=
  return diagnostics (← loadTrees x parallel fs paths)

theorem auditFiles_eq : auditFiles x parallel fs paths = .ok (collect (paths.filterMap fs.tree?)) := by
  rw [auditFiles, loadTrees_eq, Except.ok_bind, audit_eq]

theorem diagnoseFiles_eq : diagnoseFiles x parallel fs paths = .ok (diagnostics (paths.filterMap fs.tree?)) := by
  rw [diagnoseFiles, loadTrees_eq]
  rfl

end Reports

theorem merge_collect (trees trees' : List SourceTree) :
    (collect trees).merge (collect trees') = .ok (collect (trees ++ trees')) := by
  rw [collect_eq, collect_eq, collect_eq, Findings.merge_ofOrigins, List.flatMap_append]

theorem diagnostics_append (trees trees' : List SourceTree) :
    diagnostics (trees ++ trees') = diagnostics trees ++ diagnostics trees' :=
  List.flatMap_append

namespace Mixed

def text : String :=
  "func F()error\x7breturn e.X\x7d"

def marker : String :=
  "// Code generated by hand. DO NOT EDIT."

def fs : FileSystem where
  root := .dir [
    ("good.go", .file (.ok (Generated.asciiBytes text))),
    ("secret.go", .file (.error .permissionDenied)),
    ("generated.go", .file (.ok (Generated.asciiBytes marker))),
    ("bytes.go", .file (.ok [0xff])),
    ("bracket.go", .file (.ok [0x29]))] none
  cwd  := []

def badNames : List String :=
  ["missing.go", "secret.go", "generated.go", "bytes.go", "bracket.go"]

-- None of the names leads to a link.
theorem resolve_eq :
    ∀ name ∈ "good.go" :: badNames, fs.resolve true ⟨name⟩ = .ok ([name], fs.root.get? [name]) := by
  have h : ∀ name ∈ "good.go" :: badNames,
      fs.resolve true ⟨name⟩ = FileSystem.follow fs.root true FileSystem.linkLimit [] [name] := by
    simp only [badNames, List.forall_mem_cons]
    exact ⟨rfl, rfl, rfl, rfl, rfl, rfl, by simp⟩
  intro name hn
  rw [h name hn, FileSystem.follow]
  revert name
  simp only [badNames, List.forall_mem_cons]
  exact ⟨rfl, rfl, rfl, rfl, rfl, rfl, by simp⟩

theorem readFile_eq {name : String} {content : Except Fault (List UInt8)} (hn : name ∈ "good.go" :: badNames)
    (hf : fs.root.get? [name] = some (.file content)) : fs.readFile ⟨name⟩ = content := by
  rw [FileSystem.readFile, FileSystem.get, resolve_eq name hn, hf]
  rfl

theorem unusable : ∀ name ∈ badNames, Unusable fs ⟨name⟩ := by
  simp only [badNames, List.forall_mem_cons]
  refine ⟨?missing, ?secret, ?generated, ?bytes, ?bracket, by simp⟩
  case missing =>
    refine .unreadable .notFound ?_
    rw [FileSystem.readFile, FileSystem.get, resolve_eq _ (by decide)]
    rfl
  case secret => exact .unreadable .permissionDenied (readFile_eq (by decide) rfl)
  case generated =>
    refine .generated _ (readFile_eq (by decide) rfl) ?_
    rw [Generated.isGenerated]
    rfl
  case bytes =>
    refine .noText [0xff] 0 (readFile_eq (by decide) rfl) ?_ ?_
    · rw [Generated.isGenerated]; decide
    · rw [Text.decodeUtf8, Text.decodeUtf8.go]; rfl
  case bracket =>
    refine .noGo [0x29] [')'] (readFile_eq (by decide) rfl) ?_ ?_ ?_
    · rw [Generated.isGenerated]; decide
    · simp [Text.decodeUtf8, Text.decodeUtf8.go, Text.decodeChar?]
    · exact Option.isNone_iff_eq_none.mp (by decide +kernel)

theorem tree?_good : (fs.tree? ⟨"good.go"⟩).isSome := by
  have hg : ¬Generated.isGenerated (Generated.asciiBytes text) := by
    rw [Generated.isGenerated]; decide
  have hd : Text.decodeUtf8 (Generated.asciiBytes text) = .ok text.toList := by
    simp [text, Generated.asciiBytes, Text.decodeUtf8, Text.decodeUtf8.go, Text.decodeChar?]
  have ht : (Go.readText text.toList).isSome := by decide +kernel
  have hr : fs.readFile ⟨"good.go"⟩ = .ok (Generated.asciiBytes text) := readFile_eq (by decide) rfl
  obtain ⟨tree, ht⟩ := Option.isSome_iff_exists.mp ht
  simp [FileSystem.tree?, hr, hg, hd, ht]

-- Work is shared by two, and errors are all said to be at the start.
def services : Services where
  compile _    := .error default
  firstError _ := ⟨1, 1⟩
  shares       := ⟨fun count => [count / 2]⟩

end Mixed

-- Both reports of a list of files are those of its parts put together, and none of them changes if a file that
-- cannot be used is put anywhere into the list. Such a file is unreadable, generated, no text or no Go.
theorem loadTrees_isolated (x : Services) (fs : FileSystem) (parallel : Bool) (xs ys : List Path) :
    (∃ a b m, auditFiles x parallel fs xs = .ok a ∧ auditFiles x parallel fs ys = .ok b ∧ a.merge b = .ok m ∧
      auditFiles x parallel fs (xs ++ ys) = .ok m) ∧
    (∃ a b, diagnoseFiles x parallel fs xs = .ok a ∧ diagnoseFiles x parallel fs ys = .ok b ∧
      diagnoseFiles x parallel fs (xs ++ ys) = .ok (a ++ b)) ∧
    ∀ path, ((∃ e, (loadFile x.firstError fs path).Answers (.error e)) ↔ Unusable fs path) ∧
      (Unusable fs path →
        auditFiles x parallel fs (xs ++ path :: ys) = auditFiles x parallel fs (xs ++ ys) ∧
        diagnoseFiles x parallel fs (xs ++ path :: ys) = diagnoseFiles x parallel fs (xs ++ ys)) := by
  refine ⟨⟨_, _, _, auditFiles_eq .., auditFiles_eq .., merge_collect .., ?audit⟩,
    ⟨_, _, diagnoseFiles_eq .., diagnoseFiles_eq .., ?diagnostics⟩,
    fun path => ⟨exists_loadFile_error_iff, fun h => ?_⟩⟩
  case audit       => rw [auditFiles_eq, List.filterMap_append]
  case diagnostics => rw [diagnoseFiles_eq, List.filterMap_append, diagnostics_append]
  simp only [auditFiles_eq, diagnoseFiles_eq, filterMap_tree?_insert h, and_self]

open Mixed in
theorem loadTrees_isolated_mixed :
    (∃ tree, loadTrees services true fs [⟨"good.go"⟩] = .ok [tree]) ∧
    ∀ name ∈ badNames, Unusable fs ⟨name⟩ ∧
      auditFiles services true fs [⟨"good.go"⟩, ⟨name⟩, ⟨"good.go"⟩] =
        auditFiles services true fs [⟨"good.go"⟩, ⟨"good.go"⟩] ∧
      diagnoseFiles services true fs [⟨"good.go"⟩, ⟨name⟩, ⟨"good.go"⟩] =
        diagnoseFiles services true fs [⟨"good.go"⟩, ⟨"good.go"⟩] := by
  refine ⟨?good, fun name hn => ⟨unusable name hn, ?_⟩⟩
  case good =>
    obtain ⟨tree, ht⟩ := Option.isSome_iff_exists.mp tree?_good
    exact ⟨tree, by simp [loadTrees_eq, ht]⟩
  obtain ⟨_, _, h⟩ := loadTrees_isolated services fs true [⟨"good.go"⟩] [⟨"good.go"⟩]
  exact (h ⟨name⟩).right (unusable name hn)

end ErrorOrigins
