import ErrorOrigins.Proofs.Collecting
import ErrorOrigins.Proofs.MergedCounts
import Mathlib.Data.List.DropRight

namespace ErrorOrigins

namespace Collector

-- What can be done to a collector. It may start again on its findings, or on these merged with others.
inductive Action
  | event (event : Event)
  | restart
  | merge (findings : Findings)
  deriving Repr, Inhabited

def act (c : Collector) : Action → Except Halt Collector
  | .event event    => .ok (c.step event)
  | .restart        => .ok (ofFindings c.findings)
  | .merge findings => (c.findings.merge findings).map ofFindings

def run (c : Collector) (actions : List Action) : Except Halt Collector :=
  actions.foldlM act c

namespace Action

def isSite : Action → Bool
  | event (.site _ _) => true
  | _                 => false

-- The descriptor of a site that has one.
def descriptor? : Action → Option String
  | event (.site _ site) => if site.descriptor = "" then none else some site.descriptor
  | _                    => none

def merged? : Action → Option Findings
  | merge findings => some findings
  | _              => none

-- The origin that an action records if some descriptors are open. Only leaving records one.
def recorded? (texts : List String) : Action → Option Origin
  | event (.leave scope) =>
    if texts = [] then none else
      some { function := scope.function.name, location := scope.location, descriptors := texts }
  | _ => none

-- The origins that an action adds: those of merged findings, or the one that it records.
def added (texts : List String) (action : Action) : List Origin :=
  action.merged?.elim [] (·.origins) ++ (action.recorded? texts).toList

-- What an action adds to a counter.
def counted (counter : Findings → UInt64) (action : Action) : Nat :=
  action.merged?.elim 0 fun findings => (counter findings).toNat

end Action

-- The descriptors of the sites at the end of a run, back to the last action that is no site.
def openDescriptors (actions : List Action) : List String :=
  (actions.rtakeWhile (·.isSite)).filterMap (·.descriptor?)

-- Each action with the descriptors that are open before it.
def withOpen (actions : List Action) : List (List String × Action) :=
  actions.mapIdx fun i action => (openDescriptors (actions.take i), action)

-- All origins that are recorded in a run.
def recorded (actions : List Action) : List Origin :=
  (withOpen actions).filterMap fun p => p.2.recorded? p.1

-- All origins that a run adds.
def added (actions : List Action) : List Origin :=
  (withOpen actions).flatMap fun p => p.2.added p.1

-- What a counter comes to: its value at the start and all that is added to it.
def total (counter : Findings → UInt64) (start : Findings) (actions : List Action) : Nat :=
  actions.foldl (fun n action => n + action.counted counter) (counter start).toNat

-- No counter overflows.
def Fits (start : Findings) (actions : List Action) : Prop :=
  total (·.wrappedCount) start actions < UInt64.size ∧ total (·.constCount) start actions < UInt64.size

instance (start : Findings) (actions : List Action) : Decidable (Fits start actions) :=
  inferInstanceAs (Decidable (_ ∧ _))

section Concat

variable (actions : List Action) (action : Action)

theorem withOpen_concat :
    withOpen (actions ++ [action]) = withOpen actions ++ [(openDescriptors actions, action)] := by
  have h : withOpen actions = actions.mapIdx fun i a => (openDescriptors ((actions ++ [action]).take i), a) := by
    refine List.mapIdx_eq_mapIdx_iff.mpr fun i hi => ?_
    rw [List.take_append_of_le_length (Nat.le_of_lt hi)]
  rw [h, withOpen, List.mapIdx_concat]
  simp

theorem recorded_concat :
    recorded (actions ++ [action]) =
      recorded actions ++ (action.recorded? (openDescriptors actions)).toList := by
  rw [recorded, withOpen_concat, List.filterMap_append, ← recorded]
  cases h : action.recorded? (openDescriptors actions) <;> simp [h]

theorem added_concat :
    added (actions ++ [action]) = added actions ++ action.added (openDescriptors actions) := by
  rw [added, withOpen_concat, List.flatMap_append, ← added]
  simp

theorem total_concat (counter : Findings → UInt64) (start : Findings) :
    total counter start (actions ++ [action]) = total counter start actions + action.counted counter := by
  simp [total]

theorem openDescriptors_concat :
    openDescriptors (actions ++ [action]) =
      if action.isSite then openDescriptors actions ++ action.descriptor?.toList else [] := by
  rw [openDescriptors, List.rtakeWhile_concat]
  split
  case isTrue =>
    rw [List.filterMap_append, ← openDescriptors]
    cases h : action.descriptor? <;> simp [h]
  case isFalse => rw [List.filterMap_nil]

end Concat

section Runs

variable {start : Findings} {actions : List Action} {action : Action} {c c' : Collector}

-- What an action does to a collector.
structure Changes (action : Action) (c c' : Collector) : Prop where
  origins_eq      : c'.findings.origins = c.findings.origins ++ action.added c.pending
  wrappedCount_eq : c'.findings.wrappedCount.toNat =
    c.findings.wrappedCount.toNat + action.counted (·.wrappedCount)
  constCount_eq   : c'.findings.constCount.toNat = c.findings.constCount.toNat + action.counted (·.constCount)
  pending_eq      : c'.pending = if action.isSite then c.pending ++ action.descriptor?.toList else []

theorem act_changes (h : c.act action = .ok c') : Changes action c c' := by
  cases action
  case event event =>
    cases h
    -- What a site does hangs on its descriptor, and what leaving does on the pending ones.
    cases event
    case' site _ site => by_cases hd : site.descriptor = ""
    case' leave _     => by_cases hp : c.pending = []
    all_goals
      constructor <;> simp [step, ReturnSite.hasDescriptor, Action.added, Action.merged?, Action.recorded?,
        Action.counted, Action.isSite, Action.descriptor?, *]
  case restart =>
    cases h
    constructor <;>
      simp [ofFindings, Action.added, Action.merged?, Action.recorded?, Action.counted, Action.isSite]
  case merge findings =>
    cases hm : c.findings.merge findings <;> simp [act, hm, Except.map] at h
    case ok m =>
      obtain ⟨ho, hw, hk⟩ := Findings.merge_eq_ok_iff.mp hm
      subst h
      constructor <;>
        simp [ofFindings, Action.added, Action.merged?, Action.recorded?, Action.counted, Action.isSite, *]

-- Every action but a merge can be done at any time.
theorem exists_act_iff :
    (∃ c', c.act action = .ok c') ↔
      c.findings.wrappedCount.toNat + action.counted (·.wrappedCount) < UInt64.size ∧
      c.findings.constCount.toNat + action.counted (·.constCount) < UInt64.size := by
  have hw := c.findings.wrappedCount.toNat_lt_size
  have hk := c.findings.constCount.toNat_lt_size
  cases action
  case event   => simp [act, Action.counted, Action.merged?, hw, hk]
  case restart => simp [act, Action.counted, Action.merged?, hw, hk]
  case merge findings =>
    simp only [Action.counted, Action.merged?, Option.elim_some]
    rw [← Findings.exists_merge_iff]
    cases hm : c.findings.merge findings <;> simp [act, hm, Except.map]

-- The state of a collector, as its history has it.
structure Follows (start : Findings) (actions : List Action) (c : Collector) : Prop where
  origins_eq      : c.findings.origins = start.origins ++ added actions
  wrappedCount_eq : c.findings.wrappedCount.toNat = total (·.wrappedCount) start actions
  constCount_eq   : c.findings.constCount.toNat = total (·.constCount) start actions
  pending_eq      : c.pending = openDescriptors actions

theorem follows_start (start : Findings) : Follows start [] (ofFindings start) where
  origins_eq      := by simp [ofFindings, added, withOpen]
  wrappedCount_eq := by simp [ofFindings, total]
  constCount_eq   := by simp [ofFindings, total]
  pending_eq      := by simp [ofFindings, openDescriptors]

theorem Follows.act (h : Follows start actions c) (hc : c.act action = .ok c') :
    Follows start (actions ++ [action]) c' where
  origins_eq := by
    rw [(act_changes hc).origins_eq, added_concat, h.origins_eq, h.pending_eq, List.append_assoc]
  wrappedCount_eq := by rw [(act_changes hc).wrappedCount_eq, total_concat, h.wrappedCount_eq]
  constCount_eq   := by rw [(act_changes hc).constCount_eq, total_concat, h.constCount_eq]
  pending_eq      := by rw [(act_changes hc).pending_eq, openDescriptors_concat, h.pending_eq]

theorem run_concat_eq_ok_iff :
    c.run (actions ++ [action]) = .ok c' ↔ ∃ b, c.run actions = .ok b ∧ b.act action = .ok c' := by
  rw [run, List.foldlM_append, ← run]
  cases c.run actions
  case error => simp [bind, Except.bind]
  case ok b  => cases hb : b.act action <;> simp [bind, Except.bind, pure, Except.pure, hb]

theorem run_follows (h : (ofFindings start).run actions = .ok c) : Follows start actions c := by
  induction actions using List.reverseRecOn generalizing c
  case nil =>
    cases h
    exact follows_start start
  case append_singleton actions action hi =>
    obtain ⟨b, hb, hc⟩ := run_concat_eq_ok_iff.mp h
    exact (hi hb).act hc

theorem Fits.init (h : Fits start (actions ++ [action])) : Fits start actions := by
  simp only [Fits, total_concat] at h ⊢
  omega

theorem exists_run_iff : (∃ c, (ofFindings start).run actions = .ok c) ↔ Fits start actions := by
  induction actions using List.reverseRecOn
  case nil =>
    have hw := start.wrappedCount.toNat_lt_size
    have hk := start.constCount.toNat_lt_size
    simpa [run, pure, Except.pure, Fits, total] using ⟨hw, hk⟩
  case append_singleton actions action hi =>
    constructor
    case mp =>
      intro ⟨c, h⟩
      obtain ⟨b, hb, hc⟩ := run_concat_eq_ok_iff.mp h
      have hf := run_follows hb
      have ha := exists_act_iff.mp ⟨c, hc⟩
      rw [hf.wrappedCount_eq, hf.constCount_eq] at ha
      simpa only [Fits, total_concat] using ha
    case mpr =>
      intro h
      obtain ⟨b, hb⟩ := hi.mpr h.init
      have hf := run_follows hb
      obtain ⟨c, hc⟩ : ∃ c, b.act action = .ok c := by
        rw [exists_act_iff, hf.wrappedCount_eq, hf.constCount_eq]
        simpa only [Fits, total_concat] using h
      exact ⟨c, run_concat_eq_ok_iff.mpr ⟨b, hb, hc⟩⟩

theorem exists_run_of_prefix {earlier : List Action} (hp : earlier <+: actions)
    (h : (ofFindings start).run actions = .ok c) :
    ∃ b, (ofFindings start).run earlier = .ok b ∧ b.findings.origins <+: c.findings.origins := by
  obtain ⟨later, rfl⟩ := hp
  induction later using List.reverseRecOn generalizing c
  case nil => exact ⟨c, by simpa using h, List.prefix_refl _⟩
  case append_singleton later action hi =>
    rw [← List.append_assoc] at h
    obtain ⟨d, hd, hc⟩ := run_concat_eq_ok_iff.mp h
    obtain ⟨b, hb, ho⟩ := hi hd
    refine ⟨b, hb, ho.trans ?_⟩
    rw [(act_changes hc).origins_eq]
    exact List.prefix_append ..

theorem ne_empty_of_descriptor? {text : String} (h : action.descriptor? = some text) : text ≠ "" := by
  unfold Action.descriptor? at h
  split at h
  case h_1 =>
    split at h
    case isTrue  => contradiction
    case isFalse => cases h; assumption
  case h_2 => contradiction

theorem ne_empty_of_mem_openDescriptors {text : String} (h : text ∈ openDescriptors actions) : text ≠ "" := by
  obtain ⟨action, _, ha⟩ := List.mem_filterMap.mp h
  exact ne_empty_of_descriptor? ha

theorem descriptors_of_recorded? {texts : List String} {o : Origin} (h : action.recorded? texts = some o) :
    o.descriptors = texts ∧ texts ≠ [] ∧ ¬action.isSite := by
  unfold Action.recorded? at h
  split at h
  case h_1 =>
    split at h
    case isTrue  => contradiction
    case isFalse => cases h; simp [*, Action.isSite]
  case h_2 => contradiction

theorem mem_recorded {o : Origin} (h : o ∈ recorded actions) : o.descriptors ≠ [] ∧ "" ∉ o.descriptors := by
  induction actions using List.reverseRecOn
  case nil => simp [recorded, withOpen] at h
  case append_singleton actions action hi =>
    rw [recorded_concat, List.mem_append, Option.mem_toList] at h
    cases h
    case inl h => exact hi h
    case inr h =>
      obtain ⟨hd, hn, _⟩ := descriptors_of_recorded? h
      rw [hd]
      exact ⟨hn, fun he => ne_empty_of_mem_openDescriptors he rfl⟩

-- What is recorded and what is open are different sites, in the order of the run.
theorem recorded_sublist (actions : List Action) :
    ((recorded actions).flatMap (·.descriptors) ++ openDescriptors actions).Sublist
      (actions.filterMap (·.descriptor?)) := by
  induction actions using List.reverseRecOn
  case nil => simp [recorded, withOpen, openDescriptors]
  case append_singleton actions action hi =>
    rw [recorded_concat, openDescriptors_concat, List.filterMap_append, List.flatMap_append]
    cases ho : action.recorded? (openDescriptors actions)
    case some o =>
      -- Leaving turns what was open into what is recorded.
      obtain ⟨hd, _, hs⟩ := descriptors_of_recorded? ho
      simpa [hd, hs] using hi.trans (List.sublist_append_left ..)
    case none =>
      cases hs : action.isSite
      case true  =>
        have hf : [action].filterMap (·.descriptor?) = action.descriptor?.toList := by
          cases hd : action.descriptor? <;> simp [hd]
        simpa [hf] using hi.append_right action.descriptor?.toList
      case false =>
        have hr := (List.sublist_append_left ..).trans hi
        simpa using hr.trans (List.sublist_append_left ..)

end Runs

namespace Interleaved

def scope (name : String) (line : UInt32) : Scope where
  path       := some "a.go"
  function   := { name, position := { line, column := 1 }, signature := none, body := none }
  errorIndex := 0

def site (descriptor : String) : Action :=
  .event (.site (scope "F" 1) {
    position := { line := 2, column := 2 }, exprPosition := none, kind := .call, descriptor })

def leave (function : String) (line : UInt32) : Action :=
  .event (.leave (scope function line))

def other : Findings where
  origins      := [{ function := "H", location := (scope "H" 9).location, descriptors := [] }]
  wrappedCount := 2
  constCount   := 3

-- Nothing is entered, some sites are lost by starting again or by merging, and the last leaving finds none.
def actions : List Action :=
  [site "A()", leave "F" 1, site "B()", .restart, leave "F" 1, site "C()", .merge other, site "", site "D()",
    site "E()", leave "G" 5, leave "G" 5]

end Interleaved

-- The findings after a run are those at its start, followed by what its actions add, and only merging counts.
-- An origin that is recorded has descriptors, and each of them is of a site of its own.
theorem run_history (start : Findings) (actions : List Action) :
    ((∃ c, (ofFindings start).run actions = .ok c) ↔ Fits start actions) ∧
    (∀ c, (ofFindings start).run actions = .ok c →
      c.findings.origins = start.origins ++ added actions ∧
      c.findings.wrappedCount.toNat = total (·.wrappedCount) start actions ∧
      c.findings.constCount.toNat = total (·.constCount) start actions ∧
      ∀ earlier, earlier <+: actions →
        ∃ b, (ofFindings start).run earlier = .ok b ∧ b.findings.origins <+: c.findings.origins) ∧
    (∀ o ∈ recorded actions, o.descriptors ≠ [] ∧ "" ∉ o.descriptors) ∧
    ((recorded actions).flatMap (·.descriptors)).Sublist (actions.filterMap (·.descriptor?)) := by
  refine ⟨exists_run_iff, fun c h => ?state, fun o => mem_recorded, ?once⟩
  case state =>
    have hf := run_follows h
    exact ⟨hf.origins_eq, hf.wrappedCount_eq, hf.constCount_eq, fun _ hp => exists_run_of_prefix hp h⟩
  case once => exact (List.sublist_append_left ..).trans (recorded_sublist actions)

theorem run_history_interleaved :
    Fits .empty Interleaved.actions ∧
    (recorded Interleaved.actions).map (·.descriptors) = [["A()"], ["D()", "E()"]] ∧
    ∃ c, (ofFindings .empty).run Interleaved.actions = .ok c ∧
      c.findings.origins = added Interleaved.actions ∧
      c.findings.origins.map (·.function) = ["F", "H", "G"] ∧
      c.findings.wrappedCount.toNat = 2 ∧ c.findings.constCount.toNat = 3 := by
  have hf : Fits .empty Interleaved.actions := by decide
  obtain ⟨hr, hs, _, _⟩ := run_history .empty Interleaved.actions
  obtain ⟨c, hc⟩ := hr.mpr hf
  obtain ⟨ho, hw, hk, _⟩ := hs c hc
  refine ⟨hf, by decide, c, hc, ho, ?_, hw, hk⟩
  rw [ho]
  decide

end Collector
end ErrorOrigins
