import ErrorOrigins.Proofs.Merging
import ErrorOrigins.Proofs.Selecting

namespace ErrorOrigins

open Running

namespace Excludes

-- A text that is refused as a pattern, and none before it is.
structure FirstRefused (compile : Compiler) (texts : List String) (text : String) (cause : Cause) : Prop where
  split   : ∃ before after, texts = before ++ text :: after ∧ ∀ other ∈ before, ∃ pattern, compile other = .ok pattern
  refused : compile text = .error cause

-- The error about a text that is refused.
def refusal (text : String) (cause : Cause) : Error where
  kind      := .configInvalid
  message   := "failed to parse exclude dir pattern: " ++ cause.text
  status    := .fatal
  operation := "discovery::compile_excludes"
  context   := [("pattern", text)]
  cause     := some cause

variable {compile : Compiler} {texts : List String} {text : String} {cause : Cause} {pattern : String → Bool}

theorem patternOf_of_ok (h : compile text = .ok pattern) : (patternOf compile text).Answers (.ok pattern) := by
  rw [patternOf, h]
  exact answers_pure pattern

theorem patternOf_of_error (h : compile text = .error cause) :
    (patternOf compile text).Answers (.error (refusal text cause)) := by
  rw [patternOf, h]
  exact answers_throwWith cause rfl

theorem FirstRefused.cons {other : String} (ho : compile other = .ok pattern)
    (h : FirstRefused compile texts text cause) : FirstRefused compile (other :: texts) text cause := by
  obtain ⟨⟨before, after, rfl, hb⟩, hr⟩ := h
  exact ⟨⟨other :: before, after, rfl, List.forall_mem_cons.mpr ⟨⟨pattern, ho⟩, hb⟩⟩, hr⟩

theorem FirstRefused.mem (h : FirstRefused compile texts text cause) : text ∈ texts := by
  obtain ⟨before, after, rfl, _⟩ := h.split
  exact List.mem_append_right before List.mem_cons_self

theorem FirstRefused.find?_eq (h : FirstRefused compile texts text cause) :
    texts.find? (fun text => (compile text).toOption.isNone) = some text := by
  obtain ⟨⟨before, after, ht, hb⟩, hr⟩ := h
  refine List.find?_eq_some_iff_append.mpr ⟨by simp [hr], before, after, ht, fun other ho => ?_⟩
  obtain ⟨pattern, hp⟩ := hb other ho
  simp [hp]

-- Either all texts are patterns, or the answer is about the first that is refused.
theorem mapM_patternOf_cases (compile : Compiler) (texts : List String) :
    (∃ patterns, (texts.mapM (patternOf compile)).Answers (.ok patterns) ∧
      ∀ text ∈ texts, ∃ pattern, compile text = .ok pattern) ∨
    ∃ text cause, (texts.mapM (patternOf compile)).Answers (.error (refusal text cause)) ∧
      FirstRefused compile texts text cause := by
  induction texts
  case nil => exact .inl ⟨[], rfl, by simp⟩
  case cons text texts hi =>
    rw [List.mapM_cons]
    cases ht : compile text
    case error cause =>
      refine .inr ⟨text, cause, (patternOf_of_error ht).bind_error _, ⟨[], texts, rfl, by simp⟩, ht⟩
    case ok pattern =>
      have hp := patternOf_of_ok ht
      obtain ⟨patterns, hm, ha⟩ | ⟨other, cause, hm, hf⟩ := hi
      case inl =>
        refine .inl ⟨pattern :: patterns, hp.bind_ok (hm.bind_ok (answers_pure _)), ?_⟩
        exact List.forall_mem_cons.mpr ⟨⟨pattern, ht⟩, ha⟩
      case inr => exact .inr ⟨other, cause, hp.bind_ok (hm.bind_error _), hf.cons ht⟩

theorem ofTexts_cases (compile : Compiler) (texts : List String) :
    (∃ excludes, (ofTexts compile texts).Answers (.ok excludes) ∧
      ∀ text ∈ texts, ∃ pattern, compile text = .ok pattern) ∨
    ∃ text cause, (ofTexts compile texts).Answers (.error (refusal text cause)) ∧
      FirstRefused compile texts text cause := by
  obtain ⟨patterns, hm, ha⟩ | ⟨text, cause, hm, hf⟩ := mapM_patternOf_cases compile texts
  case inl => exact .inl ⟨⟨patterns⟩, hm.bind_ok (answers_pure _), ha⟩
  case inr => exact .inr ⟨text, cause, hm.bind_error _, hf⟩

end Excludes

-- What is reported once the exclude patterns are known.
def Options.report (o : Options) (fs : FileSystem) (env : Environment) (excludes : Excludes) : Report :=
  let query := { targets := o.targets, excludes, extensions := Go.extensions : Query }
  let trees := (query.selected fs env).filterMap fs.tree?
  if o.diagnostics then .diagnostics (ErrorOrigins.diagnostics trees) else .origins (collect trees)

section Answers

variable {x : Services} {fs : FileSystem} {env : Environment} {o : Options}

-- After the patterns nothing ends in an error any more.
theorem run_of_excludes {excludes : Excludes} (h : (Excludes.ofTexts x.compile o.exclude).Answers (.ok excludes)) :
    (run x fs env o).Answers (.ok (o.report fs env excludes)) := by
  refine h.bind_ok ?_
  simp only [Query.files_eq, loadTrees_eq, audit_eq, Options.report]
  cases o.diagnostics <;> rfl

theorem run_of_error {e : Error} (h : (Excludes.ofTexts x.compile o.exclude).Answers (.error e)) :
    (run x fs env o).Answers (.error e) :=
  h.bind_error _

end Answers

-- Auditing in parallel gives what one collector gives, however the work is shared, and no counter overflows. So a run
-- answers the same, be it with a report or with an error.
theorem parallel_eq_sequential :
    (∀ (shares : Shares) (trees : List SourceTree),
      audit shares true trees = audit shares false trees ∧ ∃ findings, audit shares true trees = .ok findings) ∧
    ∀ (x : Services) (fs : FileSystem) (env : Environment) (o : Options), ∃ answer : Except Error Report,
      (run x fs env { o with parallel := true }).run = .ok answer ∧
      (run x fs env { o with parallel := false }).run = .ok answer := by
  refine ⟨fun shares trees => ⟨?same, collect trees, audit_eq shares true trees⟩, fun x fs env o => ?run⟩
  case same => rw [audit_eq, audit_eq]
  case run  =>
    obtain ⟨excludes, hx, -⟩ | ⟨text, cause, hx, -⟩ := Excludes.ofTexts_cases x.compile o.exclude
    case inl => exact ⟨_, run_of_excludes hx, run_of_excludes hx⟩
    case inr => exact ⟨_, run_of_error hx, run_of_error hx⟩

-- A run is never halted. It ends in an error exactly if some exclude pattern is refused, whatever the targets and the
-- files are, and the error is about the first of these and has its cause.
theorem run_error (x : Services) (fs : FileSystem) (env : Environment) (o : Options) :
    ∃ answer : Except Error Report,
      (run x fs env o).run = .ok answer ∧
      ((∃ e, answer = .error e) ↔ ∃ text ∈ o.exclude, ∃ cause, x.compile text = .error cause) ∧
      ∀ e, answer = .error e →
        e.kind = .configInvalid ∧ e.status = .fatal ∧ e.operation = "discovery::compile_excludes" ∧
        ∃ text cause, Excludes.FirstRefused x.compile o.exclude text cause ∧ e.context = [("pattern", text)] ∧
          e.cause = some cause ∧ e.message = "failed to parse exclude dir pattern: " ++ cause.text := by
  obtain ⟨excludes, hx, ha⟩ | ⟨text, cause, hx, hf⟩ := Excludes.ofTexts_cases x.compile o.exclude
  case inl =>
    refine ⟨_, run_of_excludes hx, ⟨fun ⟨e, he⟩ => ?_, fun ⟨text, ht, cause, hc⟩ => ?_⟩, fun e he => ?_⟩
    · cases he
    · obtain ⟨pattern, hp⟩ := ha text ht
      cases hc.symm.trans hp
    · cases he
  case inr =>
    refine ⟨_, run_of_error hx, ⟨fun _ => ⟨text, hf.mem, cause, hf.refused⟩, fun _ => ⟨_, rfl⟩⟩, fun e he => ?_⟩
    cases he
    exact ⟨rfl, rfl, rfl, text, cause, hf, rfl, rfl, rfl⟩

namespace SampleRun

-- Texts with a bracket are refused, and all others fit just themselves.
def services : Services where
  compile text := if '(' ∈ text.toList then .error { text := "unclosed group", debug := "" } else .ok (· == text)
  firstError _ := ⟨1, 1⟩
  shares       := ⟨fun count => [count / 2]⟩

-- A file that may not be read, a directory that may not be opened, and one whose listing breaks off.
def fs : FileSystem where
  root := .dir [
    ("secret.go", .file (.error .permissionDenied)),
    ("shut", .dir [] (some (.closed .permissionDenied))),
    ("torn", .dir [("x.go", .file (.ok []))] (some (.broken 1 default)))] none
  cwd  := []

def options (exclude : List String) : Options :=
  { targets := ["secret.go", "shut", "torn", "./...", "missing"], exclude }

end SampleRun

open SampleRun in
theorem run_error_sample :
    (∃ e : Error, (run services fs default (options ["a", "x(", "("])).run = .ok (.error e) ∧
      e.kind = .configInvalid ∧ e.status = .fatal ∧ e.operation = "discovery::compile_excludes" ∧
      e.cause.isSome ∧ e.context = [("pattern", "x(")]) ∧
    ∃ report, (run services fs default (options ["a"])).run = .ok (.ok report) := by
  constructor
  case left =>
    obtain ⟨answer, hr, hi, he⟩ := run_error services fs default (options ["a", "x(", "("])
    obtain ⟨e, rfl⟩ := hi.mpr ⟨"x(", by decide, _, rfl⟩
    obtain ⟨hk, hs, ho, text, cause, hf, hx, hc, -⟩ := he e rfl
    have ht : some "x(" = some text := hf.find?_eq
    exact ⟨e, hr, hk, hs, ho, by simp [hc], Option.some.inj ht ▸ hx⟩
  case right =>
    obtain ⟨answer, hr, hi, -⟩ := run_error services fs default (options ["a"])
    cases answer
    case ok report => exact ⟨report, hr⟩
    case error e   =>
      obtain ⟨text, ht, cause, hc⟩ := hi.mp ⟨e, rfl⟩
      cases List.mem_singleton.mp ht
      cases hc

end ErrorOrigins
