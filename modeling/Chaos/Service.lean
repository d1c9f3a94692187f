-- The life cycle of a service, as the state machine of `StartableService` has it.
import Mathlib.Algebra.Order.Ring.Int
import Mathlib.Tactic.Common

namespace chaos.utility

/-- The states of a service. The C++ code keeps their numbers 0 to 3 in `serviceState`. -/
inductive ServiceState
  | IS_DEINTIATED
  | IS_INITIATED
  | SS_STARTED
  | SS_STOPPED
  deriving DecidableEq

/-- The events of the state machine. -/
inductive ServiceEvent
  | init
  | deinit
  | start
  | stop
  deriving DecidableEq

/-- The transition table of `ss_state_machine`: `none` when the event is not handled. -/
def process_event : ServiceState → ServiceEvent → Option ServiceState
  | .IS_DEINTIATED, .init => some .IS_INITIATED
  | .IS_INITIATED, .deinit => some .IS_DEINTIATED
  | .IS_INITIATED, .start => some .SS_STARTED
  | .SS_STARTED, .stop => some .SS_STOPPED
  | .SS_STOPPED, .start => some .SS_STARTED
  | .SS_STOPPED, .deinit => some .IS_DEINTIATED
  | _, _ => none

/-! ## The states of the handled events -/

variable {s s' : ServiceState}

theorem process_event_init (h : process_event s .init = some s') :
    s = .IS_DEINTIATED ∧ s' = .IS_INITIATED := by
  cases s <;> cases h
  exact ⟨rfl, rfl⟩

theorem process_event_deinit (h : process_event s .deinit = some s') : s' = .IS_DEINTIATED := by
  cases s <;> cases h <;> rfl

/-- A service is not deinitialized by a start, handled or not, and neither by a stop. -/
theorem process_event_start (s : ServiceState) :
    (process_event s .start).getD s ≠ .IS_DEINTIATED ↔ s ≠ .IS_DEINTIATED := by
  cases s <;> decide

theorem process_event_stop (s : ServiceState) :
    (process_event s .stop).getD s ≠ .IS_DEINTIATED ↔ s ≠ .IS_DEINTIATED := by
  cases s <;> decide

end chaos.utility
