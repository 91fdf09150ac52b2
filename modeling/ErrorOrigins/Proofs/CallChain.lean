import ErrorOrigins.Proofs.Answers

namespace ErrorOrigins.Error

-- The ways in which errors come about.
inductive Construction
  | new (kind : ErrorKind) (message : String)
  | unexpected (message : String)
  | configInvalid (message : String)
  | parseFailed (message : String)
  | encoding (message : String)
  | grammar (message : String)
  | traversalFailed (message : String)
  | fileNotFound (path : String)
  | packageNotFound (package : String)
  | noSourceFiles (dir : String)
  | generatedFile (path : String)
  | ofFault (fault : Fault)
  deriving DecidableEq, Repr, Inhabited

namespace Construction

def error : Construction → Except Halt Error
  | new kind message        => .ok (Error.new kind message)
  | unexpected message      => .ok (Error.unexpected message)
  | configInvalid message   => .ok (Error.configInvalid message)
  | parseFailed message     => .ok (Error.parseFailed message)
  | encoding message        => .ok (Error.encoding message)
  | grammar message         => .ok (Error.grammar message)
  | traversalFailed message => .ok (Error.traversalFailed message)
  | fileNotFound path       => .ok (Error.fileNotFound path)
  | packageNotFound package => .ok (Error.packageNotFound package)
  | noSourceFiles dir       => .ok (Error.noSourceFiles dir)
  | generatedFile path      => .ok (Error.generatedFile path)
  | ofFault fault           => Error.ofFault fault

-- The operations that are set from the start.
def operations : Construction → List String
  | ofFault _ => ["io"]
  | _         => []

-- The facts that are known from the start.
def facts : Construction → List (String × String)
  | fileNotFound path       => [("path", path)]
  | packageNotFound package => [("package", package)]
  | noSourceFiles dir       => [("dir", dir)]
  | generatedFile path      => [("path", path)]
  | _                       => []

def cause? : Construction → Option Cause
  | ofFault fault => some (.ofFault fault)
  | _             => none

end Construction

inductive Step
  | operation (name : String)
  | fact (key value : String)
  | cause (cause : Cause)
  deriving DecidableEq, Repr, Inhabited

namespace Step

def operation? : Step → Option String
  | operation name => some name
  | _              => none

def fact? : Step → Option (String × String)
  | fact key value => some (key, value)
  | _              => none

def cause? : Step → Option Cause
  | cause c => some c
  | _       => none

end Step

def step (e : Error) : Step → Except Halt Error
  | .operation name => .ok (e.withOperation name)
  | .fact key value => .ok (e.withContext key value)
  | .cause cause    => e.setCause cause

def run (e : Error) (steps : List Step) : Except Halt Error :=
  steps.foldlM step e

-- The operation of an error, if it has one.
def current (e : Error) : List String :=
  [e.operation].filter (· ≠ "")

-- A step, and the errors before and after it.
structure Moment where
  before : Error
  step   : Step
  after  : Error
  deriving DecidableEq, Repr, Inhabited

namespace Moment

-- What stands in the context only since this moment.
def pushed (m : Moment) : List (String × String) :=
  m.after.context.drop m.before.context.length

-- The pushed entries are calls, since the step sets an operation.
def isCall (m : Moment) : Bool :=
  m.step.operation?.isSome

end Moment

-- What a step changes, and that it changes nothing else.
structure Changes (e : Error) (s : Step) (e' : Error) : Prop where
  kind      : e'.kind = e.kind
  message   : e'.message = e.message
  status    : e'.status = e.status
  operation : e'.operation = s.operation?.getD e.operation
  context   : e'.context = e.context ++ s.operation?.elim s.fact?.toList fun _ => e.current.map ("called", ·)
  cause     : e'.cause = s.cause?.or e.cause
  fresh     : s.cause?.isSome → e.cause = none

section Steps

variable {e e' : Error} {s : Step}

theorem step_changes (h : e.step s = .ok e') : e.Changes s e' := by
  cases s
  case operation name =>
    cases h
    by_cases ho : e.operation = "" <;> constructor <;>
      simp [withOperation, withContext, ho, Step.operation?, Step.cause?, Step.fact?, current]
  case fact key value =>
    cases h
    constructor <;> simp [withContext, Step.operation?, Step.cause?, Step.fact?]
  case cause cause =>
    rw [step, setCause] at h
    split at h
    case h_1 hc =>
      cases h
      constructor <;> simp [Step.operation?, Step.cause?, Step.fact?, hc]
    case h_2 => cases h

theorem step_eq_error_iff {halt : Halt} :
    e.step s = .error halt ↔ halt = .causeAlreadySet ∧ e.cause.isSome ∧ ∃ cause, s = .cause cause := by
  cases s
  case operation name => simp [step]
  case fact key value => simp [step]
  case cause cause =>
    rw [step, setCause]
    split
    case h_1 hc    => simp [hc]
    case h_2 c' hc =>
      constructor
      case mp =>
        rintro ⟨⟩
        exact ⟨rfl, Option.isSome_of_eq_some hc, cause, rfl⟩
      case mpr =>
        rintro ⟨rfl, -⟩
        rfl

theorem Changes.pushed_eq (h : e.Changes s e') :
    Moment.pushed ⟨e, s, e'⟩ = s.operation?.elim s.fact?.toList fun _ => e.current.map ("called", ·) := by
  rw [Moment.pushed, h.context, List.drop_left]

end Steps

-- A run as the moments it goes through.
inductive Ran : Error → List Moment → Error → Prop
  | nil (e : Error) : Ran e [] e
  | cons {e e' e'' : Error} {s : Step} {ms : List Moment} (h : e.step s = .ok e') (r : Ran e' ms e'') :
      Ran e (⟨e, s, e'⟩ :: ms) e''

section Runs

variable {e e' : Error} {steps : List Step} {ms : List Moment}

theorem run_cons_of_ok {s : Step} (h : e.step s = .ok e') (steps : List Step) : e.run (s :: steps) = e'.run steps := by
  rw [run, List.foldlM_cons, h]
  rfl

theorem run_cons_of_error {s : Step} {halt : Halt} (h : e.step s = .error halt) (steps : List Step) :
    e.run (s :: steps) = .error halt := by
  rw [run, List.foldlM_cons, h]
  rfl

theorem ran_of_run (h : e.run steps = .ok e') : ∃ ms, Ran e ms e' ∧ ms.map (·.step) = steps := by
  induction steps generalizing e
  case nil =>
    cases h
    exact ⟨[], .nil _, rfl⟩
  case cons s steps hi =>
    cases hs : e.step s
    case error halt => cases (run_cons_of_error hs steps).symm.trans h
    case ok e₁ =>
      rw [run_cons_of_ok hs] at h
      obtain ⟨ms, r, rfl⟩ := hi h
      exact ⟨⟨e, s, e₁⟩ :: ms, .cons hs r, rfl⟩

theorem Ran.kept (r : Ran e ms e') : e'.kind = e.kind ∧ e'.message = e.message ∧ e'.status = e.status := by
  induction r
  case nil => exact ⟨rfl, rfl, rfl⟩
  case cons h _ hi =>
    have hc := step_changes h
    exact ⟨hi.left.trans hc.kind, hi.right.left.trans hc.message, hi.right.right.trans hc.status⟩

theorem Ran.context_eq (r : Ran e ms e') : e'.context = e.context ++ ms.flatMap (·.pushed) := by
  induction r
  case nil => simp
  case cons h _ hi =>
    have hc := step_changes h
    rw [hi, List.flatMap_cons, hc.pushed_eq, hc.context, List.append_assoc]

theorem Ran.facts_eq (r : Ran e ms e') :
    (ms.filter (!·.isCall)).flatMap (·.pushed) = (ms.map (·.step)).filterMap (·.fact?) := by
  induction r
  case nil => rfl
  case cons s _ h _ hi =>
    have hp := (step_changes h).pushed_eq
    cases s <;> simp_all [Moment.isCall, Step.operation?, Step.fact?]

-- What is called is what was current before, so the calls follow the operations by one.
theorem Ran.calls_eq (r : Ran e ms e') :
    ∃ called : List String, (ms.filter (·.isCall)).flatMap (·.pushed) = called.map ("called", ·) ∧
      called ++ e'.current = e.current ++ ((ms.map (·.step)).filterMap (·.operation?)).filter (· ≠ "") := by
  induction r
  case nil e => exact ⟨[], rfl, by simp⟩
  case cons e e₁ e' s ms h _ hi =>
    obtain ⟨called, hm, hn⟩ := hi
    have hc := step_changes h
    cases s
    case operation name =>
      refine ⟨e.current ++ called, ?_, ?_⟩
      · rw [List.filter_cons_of_pos rfl, List.flatMap_cons, hc.pushed_eq, hm, List.map_append]
        rfl
      · have ho : e₁.current = [name].filter (· ≠ "") := by rw [current, hc.operation]; rfl
        rw [List.append_assoc, hn, ho, ← List.filter_append]
        rfl
    all_goals
      have ho : e₁.current = e.current := by rw [current, hc.operation]; rfl
      refine ⟨called, ?_, ?_⟩
      · rw [List.filter_cons_of_neg Bool.false_ne_true, hm]
      · rw [hn, ho]
        rfl

theorem Ran.cause_eq (r : Ran e ms e') :
    e'.cause.toList = e.cause.toList ++ (ms.map (·.step)).filterMap (·.cause?) := by
  induction r
  case nil => simp
  case cons s _ h _ hi =>
    have hc := step_changes h
    rw [hi, hc.cause]
    cases s
    case cause cause => simp [Step.cause?, hc.fresh rfl]
    all_goals rfl

theorem run_eq_error_iff {halt : Halt} :
    e.run steps = .error halt ↔ halt = .causeAlreadySet ∧ ∃ before cause after e',
      steps = before ++ .cause cause :: after ∧ e.run before = .ok e' ∧ e'.cause.isSome := by
  induction steps generalizing e
  case nil => simp [run]
  case cons s steps hi =>
    cases hs : e.step s
    case error halt' =>
      rw [run_cons_of_error hs]
      obtain ⟨rfl, hc, cause, rfl⟩ := step_eq_error_iff.mp hs
      constructor
      case mp =>
        rintro ⟨⟩
        exact ⟨rfl, [], cause, steps, e, rfl, rfl, hc⟩
      case mpr =>
        rintro ⟨rfl, -⟩
        rfl
    case ok e₁ =>
      rw [run_cons_of_ok hs, hi]
      refine and_congr_right fun _ => ⟨?mp, ?mpr⟩
      case mp =>
        rintro ⟨before, cause, after, e', rfl, hr, hc⟩
        exact ⟨s :: before, cause, after, e', rfl, (run_cons_of_ok hs before).trans hr, hc⟩
      case mpr =>
        rintro ⟨_ | ⟨s', before⟩, cause, after, e', ht, hr, hc⟩
        case nil =>
          obtain ⟨rfl, -⟩ := List.cons.inj ht
          cases hr
          cases hs.symm.trans (step_eq_error_iff.mpr ⟨rfl, hc, cause, rfl⟩)
        case cons =>
          obtain ⟨rfl, rfl⟩ := List.cons.inj ht
          exact ⟨before, cause, after, e', rfl, (run_cons_of_ok hs before).symm.trans hr, hc⟩

end Runs

-- Nothing halts where an error is made.
theorem Construction.exists_error (c : Construction) :
    ∃ e, c.error = .ok e ∧ e.context = c.facts ∧ e.current = c.operations.filter (· ≠ "") ∧ e.cause = c.cause? := by
  cases c
  case ofFault fault => exact ⟨fault.error, Error.ofFault_eq fault, rfl, rfl, rfl⟩
  all_goals exact ⟨_, rfl, rfl, rfl, rfl⟩

-- An error that was made in any way and went through any steps is of the kind it was made with. Its context grows at
-- the end only: steps that set an operation put the one before it there, so that these and the current one are all that
-- were ever set, and all else are the facts that were given. A run halts where a cause is set and one is there already.
theorem run_chain (c : Construction) (steps : List Step) :
    ∃ start, c.error = .ok start ∧
    (∀ e, start.run steps = .ok e →
      (e.kind = start.kind ∧ e.message = start.message ∧ e.status = start.status) ∧
      ∃ (ms : List Moment) (called : List String), Ran start ms e ∧ ms.map (·.step) = steps ∧
        e.context = c.facts ++ ms.flatMap (·.pushed) ∧
        (ms.filter (·.isCall)).flatMap (·.pushed) = called.map ("called", ·) ∧
        called ++ e.current = (c.operations ++ steps.filterMap (·.operation?)).filter (· ≠ "") ∧
        (ms.filter (!·.isCall)).flatMap (·.pushed) = steps.filterMap (·.fact?) ∧
        e.cause.toList = c.cause?.toList ++ steps.filterMap (·.cause?)) ∧
    ∀ halt, start.run steps = .error halt ↔ halt = .causeAlreadySet ∧ ∃ before cause after e,
      steps = before ++ .cause cause :: after ∧ start.run before = .ok e ∧ e.cause.isSome := by
  obtain ⟨start, hs, hf, ho, hc⟩ := c.exists_error
  refine ⟨start, hs, fun e h => ?_, fun halt => run_eq_error_iff⟩
  obtain ⟨ms, r, rfl⟩ := ran_of_run h
  obtain ⟨called, hm, hn⟩ := r.calls_eq
  refine ⟨r.kept, ms, called, r, rfl, ?context, hm, ?calls, r.facts_eq, ?cause⟩
  case context => rw [r.context_eq, hf]
  case calls   => rw [hn, ho, List.filter_append]
  case cause   => rw [r.cause_eq, hc]

-- A fact may be named like a call, and an operation may be without a name.
def sampleSteps : List Step :=
  [.operation "read", .fact "called" "x", .operation "", .operation "load"]

theorem run_chain_sample :
    ∃ start e ms, (Construction.ofFault .notFound).error = .ok start ∧ start.run sampleSteps = .ok e ∧
      Ran start ms e ∧
      e.context = [("called", "io"), ("called", "x"), ("called", "read")] ∧
      (ms.filter (·.isCall)).flatMap (·.pushed) = [("called", "io"), ("called", "read")] := by
  obtain ⟨start, hs, hr, -⟩ := run_chain (.ofFault .notFound) sampleSteps
  cases hs
  obtain ⟨-, ms, called, r, -, -, hm, hn, -⟩ := hr _ rfl
  have hn : called ++ ["load"] = ["io", "read"] ++ ["load"] := hn
  obtain rfl := List.append_cancel_right hn
  exact ⟨_, _, ms, rfl, rfl, r, rfl, hm⟩

end ErrorOrigins.Error
