-- The four drivers of a startable service. Each moves the state machine, calls the hook of the
-- service and writes the new state down. A driver whose hook throws sends the machine an event
-- that is meant to take the move back.
import Chaos.Exception
import Chaos.Runs
import Chaos.Service

namespace chaos.utility

open runs

/-! ## The drivers -/

/-- The number that the state machine gives to a state, in the order of its table. -/
def ServiceState.number : ServiceState → UInt8
  | .IS_DEINTIATED => 0
  | .IS_INITIATED => 1
  | .SS_STARTED => 2
  | .SS_STOPPED => 3

/-- `state_machine` is the current state of the machine. `serviceState` is the number that is
written down for the others to read. -/
structure StartableService where
  state_machine : ServiceState
  serviceState : UInt8
  deriving DecidableEq

namespace StartableService

def create : StartableService := ⟨.IS_DEINTIATED, ServiceState.IS_DEINTIATED.number⟩

/-- `process_event`. An event that is not in the table leaves the machine where it is. -/
def sendEvent (s : StartableService) (event : ServiceEvent) : StartableService :=
  { s with state_machine := (process_event s.state_machine event).getD s.state_machine }

/-- A driver. `hook` is what the hook of the service does, and `undo` the event that is sent when
it throws. -/
def drive (event : ServiceEvent) (undo : Option ServiceEvent) (message : String)
    (s : StartableService) (hook : Except CException Unit) (domainString : String) :
    StartableService × Except CException Bool :=
  if (process_event s.state_machine event).isSome then
    let moved := s.sendEvent event
    match hook with
    | .ok () => ({ moved with serviceState := moved.state_machine.number }, .ok true)
    | .error ex => (undo.elim moved moved.sendEvent, .error ex)
  else (s, .error ⟨0, message, domainString⟩)

def initImplementation :=
  drive .init (some .deinit) "Service cant be initialized"

/-- The hook is not in a `try` block of its own. -/
def deinitImplementation :=
  drive .deinit none "Service cant be deinitialize"

/-- The event that is sent when the hook throws is `initialize`. -/
def startImplementation :=
  drive .start (some .init) "Service cant be started"

def stopImplementation :=
  drive .stop (some .start) "Service cant be stopped"

end StartableService

/-- A call of a driver, with what the hook does if it is called. -/
structure ServiceCall where
  event : ServiceEvent
  hook : Except CException Unit
  domainString : String

namespace StartableService

def call (s : StartableService) (c : ServiceCall) : StartableService × Except CException Bool :=
  match c.event with
  | .init => s.initImplementation c.hook c.domainString
  | .deinit => s.deinitImplementation c.hook c.domainString
  | .start => s.startImplementation c.hook c.domainString
  | .stop => s.stopImplementation c.hook c.domainString

def step (s : StartableService) (c : ServiceCall) : Option StartableService := some (s.call c).1

/-! ## What is claimed -/

def Agrees (s : StartableService) : Prop := s.serviceState = s.state_machine.number

/-- The two states agree after a call from `s`, and a call that throws leaves both. -/
structure Consistent (s : StartableService) (r : StartableService × Except CException Bool) :
    Prop where
  agrees : r.1.Agrees
  kept : ∀ ex, r.2 = .error ex → r.1 = s

def IsConsistent (s : StartableService) (c : ServiceCall) : Prop := Consistent s (s.call c)

/-- The hook returns, if it is called to start or to deinitialize the service. -/
def HookReturns (s : StartableService) (c : ServiceCall) : Prop :=
  c.event = .start ∨ c.event = .deinit → (process_event s.state_machine c.event).isSome →
    c.hook = .ok ()

/-! ## The laws -/

variable {s : StartableService} {event : ServiceEvent} {undo : Option ServiceEvent}
  {message domainString : String} {hook : Except CException Unit}

/-- A driver is consistent where the undo takes the move back. -/
theorem drive_undone (h : s.Agrees)
    (hundo : (process_event s.state_machine event).isSome →
      undo.elim (s.sendEvent event) (s.sendEvent event).sendEvent = s) :
    Consistent s (drive event undo message s hook domainString) := by
  unfold drive
  split
  · rename_i hsome
    cases hook with
    | ok => exact ⟨rfl, nofun⟩
    | error ex =>
      dsimp only
      rw [hundo hsome]
      exact ⟨h, fun _ _ => rfl⟩
  · exact ⟨h, fun _ _ => rfl⟩

/-- Where the undo does not take the move back, the hook must return. -/
theorem drive_not_undone (h : s.Agrees)
    (hundo : (process_event s.state_machine event).isSome →
      undo.elim (s.sendEvent event) (s.sendEvent event).sendEvent ≠ s) :
    Consistent s (drive event undo message s hook domainString) ↔
      ((process_event s.state_machine event).isSome → hook = .ok ()) := by
  unfold drive
  split
  · rename_i hsome
    cases hook with
    | ok => exact iff_of_true ⟨rfl, nofun⟩ fun _ => rfl
    | error ex =>
      refine iff_of_false ?_ ?_
      · intro hok
        exact hundo hsome (hok.kept ex rfl)
      · intro hreturns
        cases hreturns hsome
  · rename_i hnone
    exact iff_of_true ⟨h, fun _ _ => rfl⟩ fun hsome => absurd hsome hnone

theorem sendEvent_init_deinit (hsome : (process_event s.state_machine .init).isSome) :
    (s.sendEvent .init).sendEvent .deinit = s := by
  obtain ⟨state, number⟩ := s
  cases state <;> first | rfl | cases hsome

theorem sendEvent_stop_start (hsome : (process_event s.state_machine .stop).isSome) :
    (s.sendEvent .stop).sendEvent .start = s := by
  obtain ⟨state, number⟩ := s
  cases state <;> first | rfl | cases hsome

/-- A service that is started does not know the event that is to take the start back. -/
theorem sendEvent_start_init (hsome : (process_event s.state_machine .start).isSome) :
    (s.sendEvent .start).sendEvent .init ≠ s := by
  intro heq
  have hstate := congrArg state_machine heq
  simp only [sendEvent] at hstate
  revert hsome hstate
  cases s.state_machine <;> decide

theorem sendEvent_deinit (hsome : (process_event s.state_machine .deinit).isSome) :
    s.sendEvent .deinit ≠ s := by
  intro heq
  have hstate := congrArg state_machine heq
  simp only [sendEvent] at hstate
  revert hsome hstate
  cases s.state_machine <;> decide

/-- A call is consistent just when the hook returns where it must. -/
theorem isConsistent_iff (h : s.Agrees) (c : ServiceCall) : s.IsConsistent c ↔ s.HookReturns c := by
  obtain ⟨event, hook, domainString⟩ := c
  cases event with
  | init =>
    refine iff_of_true (drive_undone h sendEvent_init_deinit) ?_
    rintro (hstart | hdeinit)
    · cases hstart
    · cases hdeinit
  | deinit =>
    refine (drive_not_undone h sendEvent_deinit).trans ?_
    exact ⟨fun hreturns _ => hreturns, fun hreturns => hreturns (.inr rfl)⟩
  | start =>
    refine (drive_not_undone h sendEvent_start_init).trans ?_
    exact ⟨fun hreturns _ => hreturns, fun hreturns => hreturns (.inl rfl)⟩
  | stop =>
    refine iff_of_true (drive_undone h sendEvent_stop_start) ?_
    rintro (hstart | hdeinit)
    · cases hstart
    · cases hdeinit

/-- The calls of a run are all consistent just when every hook that is called to start or to
deinitialize the service returns. -/
theorem service_is_consistent_iff (calls : List ServiceCall) :
    RunOk step IsConsistent create calls ↔ RunOk step HookReturns create calls := by
  have hcreate : create.Agrees := rfl
  refine runOk_congr Agrees (fun s c h => isConsistent_iff h c) ?_ hcreate
  rintro s c t - hok ⟨⟩
  exact hok.agrees

/-- A hook that throws, with any exception. -/
def thrown : Except CException Unit := .error ⟨-1, "hook", "service"⟩

/-- A start hook that throws leaves the machine started, and a deinit hook that throws leaves it
deinitialized. Neither is written down. -/
theorem failed_hooks_are_not_undone :
    ¬ RunOk step IsConsistent create [⟨.init, .ok (), ""⟩, ⟨.start, thrown, ""⟩] ∧
      ¬ RunOk step IsConsistent create [⟨.init, .ok (), ""⟩, ⟨.deinit, thrown, ""⟩] := by
  constructor
  · rintro ⟨-, hrest⟩
    have hstart := (hrest _ rfl).1
    exact absurd (hstart.kept _ rfl) (by decide)
  · rintro ⟨-, hrest⟩
    have hdeinit := (hrest _ rfl).1
    exact absurd (hdeinit.kept _ rfl) (by decide)

end StartableService

end chaos.utility
