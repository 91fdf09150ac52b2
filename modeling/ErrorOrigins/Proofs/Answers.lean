import ErrorOrigins.Error.Running
import Mathlib.Data.List.Basic

namespace Except

variable {ε α β : Type}

@[simp]
theorem ok_bind (a : α) (f : α → Except ε β) : ok a >>= f = f a :=
  rfl

@[simp]
theorem error_bind (e : ε) (f : α → Except ε β) : error e >>= f = error e :=
  rfl

@[simp]
theorem pure_eq_ok (a : α) : (pure a : Except ε α) = ok a :=
  rfl

@[simp]
theorem throw_eq_error (e : ε) : (throw e : Except ε α) = error e :=
  rfl

@[simp]
theorem toOption_ok (a : α) : (ok a : Except ε α).toOption = some a :=
  rfl

@[simp]
theorem toOption_error (e : ε) : (error e : Except ε α).toOption = none :=
  rfl

variable {x : Except ε α}

theorem toOption_eq_some_iff {a : α} : x.toOption = some a ↔ x = ok a := by
  cases x <;> simp

theorem toOption_eq_none_iff : x.toOption = none ↔ ∃ e, x = error e := by
  cases x <;> simp

theorem bind_eq_ok_iff {f : α → Except ε β} {b : β} : x >>= f = ok b ↔ ∃ a, x = ok a ∧ f a = ok b := by
  cases x <;> simp

theorem mapM_eq_ok {f : α → Except ε β} {g : α → β} (h : ∀ a, f a = ok (g a)) (as : List α) :
    as.mapM f = ok (as.map g) := by
  rw [funext h]
  exact List.mapM_pure

end Except

namespace ErrorOrigins

-- The error that a fault becomes.
def Fault.error (f : Fault) : Error where
  kind      := .ofFault f.kind
  message   := f.text
  status    := (ErrorKind.ofFault f.kind).status
  operation := "io"
  context   := []
  cause     := some (.ofFault f)

namespace Error

theorem setCause_eq {e : Error} (cause : Cause) (h : e.cause = none) :
    e.setCause cause = .ok { e with cause := some cause } := by
  rw [setCause, h]

theorem ofFault_eq (f : Fault) : ofFault f = .ok f.error :=
  setCause_eq _ rfl

end Error

namespace Running

variable {α β : Type}

-- The computation is not halted and gives this answer.
def Answers (x : Running α) (answer : Except Error α) : Prop :=
  x.run = .ok answer

theorem answers_pure (a : α) : (pure a : Running α).Answers (.ok a) :=
  rfl

theorem answers_throw (e : Error) : (throw e : Running α).Answers (.error e) :=
  rfl

-- A cause is only set on an error that has none, so nothing halts here.
theorem answers_throwWith {e : Error} (cause : Cause) (h : e.cause = none) :
    (throwWith e cause : Running α).Answers (.error { e with cause := some cause }) := by
  rw [throwWith, Error.setCause_eq cause h]
  rfl

theorem answers_throwFault (f : Fault) (note : Error → Error) :
    (throwFault f note : Running α).Answers (.error (note f.error)) := by
  rw [throwFault, Error.ofFault_eq]
  rfl

namespace Answers

variable {x : Running α} {answer answer' : Except Error α} {a : α} {e : Error}

theorem unique (h : x.Answers answer) (h' : x.Answers answer') : answer = answer' :=
  Except.ok.inj (h.symm.trans h')

theorem bind_ok {f : α → Running β} {answer : Except Error β} (h : x.Answers (.ok a)) (hf : (f a).Answers answer) :
    (x >>= f).Answers answer := by
  have hb : (x >>= f).run = x.run >>= ExceptT.bindCont f := rfl
  rw [Answers, hb, h]
  exact hf

theorem bind_error (f : α → Running β) (h : x.Answers (.error e)) : (x >>= f).Answers (.error e) := by
  have hb : (x >>= f).run = x.run >>= ExceptT.bindCont f := rfl
  rw [Answers, hb, h]
  rfl

theorem mapError (f : Error → Error) (h : x.Answers answer) : (x.mapError f).Answers (answer.mapError f) := by
  have hm : (x.mapError f).run = x.run.map (Except.mapError f) := rfl
  rw [Answers, hm, h]
  rfl

theorem attempt (h : x.Answers answer) : x.attempt = .ok answer.toOption := by
  rw [Running.attempt, h]
  rfl

end Answers

variable {x : Running α}

theorem attempt_eq_ok_iff {found : Option α} :
    x.attempt = .ok found ↔ ∃ answer, x.Answers answer ∧ answer.toOption = found := by
  rw [attempt]
  unfold Answers
  cases x.run <;> simp [Except.map]

theorem attempt_eq_some_iff {a : α} : x.attempt = .ok (some a) ↔ x.Answers (.ok a) := by
  simp [attempt_eq_ok_iff, Except.toOption_eq_some_iff]

theorem attempt_eq_none_iff : x.attempt = .ok none ↔ ∃ e, x.Answers (.error e) := by
  simp only [attempt_eq_ok_iff, Except.toOption_eq_none_iff]
  exact ⟨fun ⟨_, h, e, he⟩ => ⟨e, he ▸ h⟩, fun ⟨e, h⟩ => ⟨_, h, e, rfl⟩⟩

end Running
end ErrorOrigins
