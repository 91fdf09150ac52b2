import ErrorOrigins.Proofs.Answers
import ErrorOrigins.Run

namespace ErrorOrigins

open Running

namespace SourceFile

variable {file : SourceFile}

theorem text_of_chars {chars : List Char} (hd : Text.decodeUtf8 file.content = .ok chars) :
    file.text.Answers (.ok (String.ofList chars)) := by
  rw [text, hd]
  exact answers_pure _

theorem text_of_offset {offset : Nat} (hd : Text.decodeUtf8 file.content = .error offset) :
    ∃ e : Error, file.text.Answers (.error e) ∧ e.kind = .encodingError ∧ e.status = .recoverable ∧ e.operation = "" ∧
      e.context = [("valid_up_to", toString offset)] ∧ e.cause.isSome := by
  rw [text, hd]
  exact ⟨_, answers_throwWith _ rfl, rfl, rfl, rfl, rfl, rfl⟩

end SourceFile

namespace Go

variable {firstError : ErrorFinder} {file : SourceFile} {text : String}

theorem parseFile_of_error {e : Error} (ht : file.text.Answers (.error e)) :
    (parseFile firstError file).Answers (.error e) :=
  ht.bind_error _

theorem parseFile_of_none (ht : file.text.Answers (.ok text)) (hr : readText text.toList = none) :
    (parseFile firstError file).Answers (.error (syntaxError file (firstError text))) := by
  refine ht.bind_ok ?_
  rw [hr]
  exact answers_throw _

theorem parseFile_of_some {tree : Tree} (ht : file.text.Answers (.ok text)) (hr : readText text.toList = some tree) :
    (parseFile firstError file).Answers (.ok (tree.toSourceTree text file.path)) := by
  refine ht.bind_ok ?_
  rw [hr]
  exact answers_pure _

theorem exists_of_parseFile_ok {t : SourceTree} (h : (parseFile firstError file).Answers (.ok t)) :
    ∃ text tree, file.text.Answers (.ok text) ∧ readText text.toList = some tree ∧
      t = tree.toSourceTree text file.path := by
  cases hd : Text.decodeUtf8 file.content
  case error offset =>
    obtain ⟨e, ht, -⟩ := SourceFile.text_of_offset hd
    cases h.unique (parseFile_of_error ht)
  case ok chars =>
    have ht := SourceFile.text_of_chars hd
    cases hr : readText (String.ofList chars).toList
    case none      => cases h.unique (parseFile_of_none ht hr)
    case some tree => exact ⟨_, tree, ht, hr, Except.ok.inj (h.unique (parseFile_of_some ht hr))⟩

end Go

section Files

variable {firstError : Go.ErrorFinder} {fs : FileSystem} {path : Path} {content : List UInt8}

theorem read_of_fault {fault : Fault} (hr : fs.readFile path = .error fault) :
    (readSource fs path >>= sourceTree firstError).Answers (.error (fault.error.withContext "path" path.text)) := by
  have hs : (readSource fs path).Answers (.error (fault.error.withContext "path" path.text)) := by
    rw [readSource, hr]
    exact answers_throwFault fault _
  exact hs.bind_error _

theorem readSource_of_content (hr : fs.readFile path = .ok content) :
    (readSource fs path).Answers (.ok { path := some path.text, content }) := by
  rw [readSource, hr]
  exact answers_pure _

theorem read_of_generated (hr : fs.readFile path = .ok content) (hg : Generated.isGenerated content) :
    (readSource fs path >>= sourceTree firstError).Answers (.error (Error.generatedFile path.text)) := by
  refine (readSource_of_content hr).bind_ok ?_
  rw [sourceTree, if_pos hg]
  exact answers_throw _

-- What is no generated file is parsed.
theorem read_of_handWritten {answer : Except Error SourceTree} (hr : fs.readFile path = .ok content)
    (hg : ¬Generated.isGenerated content)
    (hp : (Go.parseFile firstError { path := some path.text, content }).Answers answer) :
    (readSource fs path >>= sourceTree firstError).Answers answer := by
  refine (readSource_of_content hr).bind_ok ?_
  rwa [sourceTree, if_neg hg]

theorem loadFile_of_read {answer : Except Error SourceTree}
    (h : (readSource fs path >>= sourceTree firstError).Answers answer) :
    (loadFile firstError fs path).Answers (answer.mapError (·.withOperation "pipeline::load_file")) :=
  h.mapError _

-- The tree of a file that can be read, is not generated, and is Go.
def FileSystem.tree? (fs : FileSystem) (path : Path) : Option SourceTree := do
  let content ← (fs.readFile path).toOption
  let content ← if Generated.isGenerated content then none else some content
  let chars ← (Text.decodeUtf8 content).toOption
  let tree ← Go.readText chars
  return tree.toSourceTree (String.ofList chars) (some path.text)

-- Loading a file is never halted, and which error it ends in makes no difference for the others.
theorem attempt_loadFile (firstError : Go.ErrorFinder) (fs : FileSystem) (path : Path) :
    (loadFile firstError fs path).attempt = .ok (fs.tree? path) := by
  have ha : ∀ {answer}, (readSource fs path >>= sourceTree firstError).Answers answer →
      (loadFile firstError fs path).attempt = .ok answer.toOption := by
    intro answer h
    rw [(loadFile_of_read h).attempt]
    cases answer <;> rfl
  cases hr : fs.readFile path
  case error fault => simp [ha (read_of_fault hr), FileSystem.tree?, hr]
  case ok content =>
    by_cases hg : Generated.isGenerated content
    case pos => simp [ha (read_of_generated hr hg), FileSystem.tree?, hr, hg]
    cases hd : Text.decodeUtf8 content
    case error offset =>
      obtain ⟨e, ht, -⟩ := @SourceFile.text_of_offset { path := some path.text, content } _ hd
      have hl := ha (read_of_handWritten hr hg (Go.parseFile_of_error ht))
      simp [hl, FileSystem.tree?, hr, hg, hd]
    case ok chars =>
      have ht := @SourceFile.text_of_chars { path := some path.text, content } _ hd
      cases hp : Go.readText chars
      case none =>
        have hl := ha (read_of_handWritten hr hg (Go.parseFile_of_none ht (by simpa using hp)))
        simp [hl, FileSystem.tree?, hr, hg, hd, hp]
      case some tree =>
        have hl := ha (read_of_handWritten hr hg (Go.parseFile_of_some ht (by simpa using hp)))
        simp [hl, FileSystem.tree?, hr, hg, hd, hp]

end Files

namespace Shares

variable {α β : Type}

theorem flatten_pieces (sizes : List Nat) (items : List α) : (pieces sizes items).flatten = items := by
  induction sizes generalizing items
  case nil => exact List.append_nil items
  case cons size sizes hi => rw [pieces, List.flatten_cons, hi, List.take_append_drop]

-- Work that can be put together from its parts gives the same however it is shared.
theorem collect_eq (s : Shares) {work : List α → Except Halt (List β)} {f : List α → List β}
    (hw : ∀ items, work items = .ok (f items)) (hf : ∀ parts : List (List α), (parts.map f).flatten = f parts.flatten)
    (items : List α) : s.collect work items = .ok (f items) := by
  rw [collect, Except.mapM_eq_ok hw, Except.ok_bind, hf, flatten_pieces]
  rfl

end Shares

theorem loadEach_eq (firstError : Go.ErrorFinder) (fs : FileSystem) (paths : List Path) :
    loadEach firstError fs paths = .ok (paths.filterMap fs.tree?) := by
  rw [loadEach, Except.mapM_eq_ok (attempt_loadFile firstError fs), Except.ok_bind, List.filterMap_map]
  rfl

theorem loadTrees_eq (x : Services) (parallel : Bool) (fs : FileSystem) (paths : List Path) :
    loadTrees x parallel fs paths = .ok (paths.filterMap fs.tree?) := by
  have hf : ∀ parts : List (List Path), (parts.map (·.filterMap fs.tree?)).flatten = parts.flatten.filterMap fs.tree? :=
    fun parts => List.filterMap_flatten.symm
  cases parallel
  case false => exact loadEach_eq x.firstError fs paths
  case true  => exact x.shares.collect_eq (loadEach_eq x.firstError fs) hf paths

end ErrorOrigins
