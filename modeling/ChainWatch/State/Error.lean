import ChainWatch.Health.Error
import ChainWatch.Chain.Error

/-!
# Why a snapshot could not be built

`StateError` gathers what can stop a snapshot: a configuration error, an unusable service, a
failed call (with what was being done), no block in the walk, a block without an execution
payload, or a cancelled build. `StateError.isTransient` tells the errors that a later attempt may
not meet (an unusable service, a failed call, a cancelled build) from those that need someone to
act; a missing contract is of the second sort.
-/

namespace ChainWatch

/-- Why a snapshot could not be built. -/
inductive StateError where
  | configuration (e : ConfigError)
  | health (e : HealthError)
  /-- A call failed while doing `context`. -/
  | client (context : String) (source : ClientError)
  /-- No block lies between the two slots. -/
  | missingData (fromSlot floor : Nat)
  | missingExecutionPayload (slot : Nat)
  | cancelled
  deriving DecidableEq

namespace StateError

/-- The text of the error: that of its cause for configuration and service errors. -/
def message : StateError → String
  | configuration e => e.message
  | health e => e.message
  | client c s => "Error while " ++ c ++ ": " ++ s.message
  | missingData f fl => "No block found between slot " ++ Nat.repr f ++ " and slot " ++ Nat.repr fl
  | missingExecutionPayload s => "Block at slot " ++ Nat.repr s ++ " has no execution payload"
  | cancelled => "Snapshot build was cancelled"

/-- Whether a later attempt may succeed without anyone acting. -/
def isTransient : StateError → Bool
  | health (.contractNotDeployed _) => false
  | health _ | client .. | cancelled => true
  | configuration _ | missingData .. | missingExecutionPayload _ => false

/-- The name of the error's kind, with the kinds of its causes. -/
def kindName : StateError → String
  | configuration e => "Configuration." ++ e.kindName
  | health e => "Health." ++ e.kindName
  | client _ s => "Client." ++ s.kindName
  | missingData .. => "MissingData"
  | missingExecutionPayload _ => "MissingExecutionPayload"
  | cancelled => "Cancelled"

end StateError

end ChainWatch
