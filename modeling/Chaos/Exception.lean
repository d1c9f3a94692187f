-- The exceptions of the framework, and how a call ends that does not return.
import Mathlib.Tactic.Common

namespace chaos

structure CException where
  errorCode : Int
  errorMessage : String
  errorDomain : String
  deriving DecidableEq, Repr

/-- A call throws an exception, or it does what the language leaves undefined, such as going
through a NULL pointer. -/
inductive Failure
  | thrown (ex : CException)
  | undefined
  deriving DecidableEq, Repr

end chaos
