import ChainWatch.Health.Basic
import ChainWatch.Client.Error
import ChainWatch.Chain.Address

/-!
# Why a service could not be used

`HealthError` says why no instance of a service could be used: none could be reached, the
service did not become synced in time, a probe failed, a contract is missing, or the wait was
cancelled. Waiting times are written as spans (`spanText`): whole seconds with the fraction of a
second when there is one, milliseconds below a second, `0ns` for nothing.
-/

namespace ChainWatch

/-- Digits of a fraction of a second in milliseconds, without trailing zeros. -/
def fractionDigits (ms : Nat) : String :=
  let d := [ms / 100, ms / 10 % 10, ms % 10]
  let kept := (d.reverse.dropWhile (· == 0)).reverse
  String.join (kept.map Nat.repr)

/-- A span of `ms` milliseconds as text: `16s`, `1.5s`, `250ms`, `0ns`. -/
def spanText (ms : Nat) : String :=
  if ms / 1000 > 0 then
    Nat.repr (ms / 1000) ++ (if ms % 1000 = 0 then "" else "." ++ fractionDigits (ms % 1000)) ++ "s"
  else if ms > 0 then Nat.repr ms ++ "ms"
  else "0ns"

/-- Why no instance of a service could be used. -/
inductive HealthError where
  /-- Neither instance could be used: why the primary could not, and the fallback if there is one. -/
  | noAvailableClient (kind : ServiceKind) (primaryError : String) (fallbackError : Option String)
  /-- The service did not become synced within the wait, in milliseconds. -/
  | notReady (kind : ServiceKind) (waitedMs : Nat)
  /-- Probing an instance failed. -/
  | transport (kind : ServiceKind) (role : Role) (source : ClientError)
  /-- No contract code is at the address. -/
  | contractNotDeployed (address : Address)
  | cancelled
  deriving DecidableEq

namespace HealthError

/-- The text of the error. -/
def message : HealthError → String
  | noAvailableClient k p f => "No " ++ k.name ++ " client is available, primary: " ++ p ++
      ", fallback: " ++ f.getD "not configured"
  | notReady k w => "The " ++ k.name ++ " client is not synced yet, waited " ++ spanText w
  | transport k r s => "Could not probe the " ++ r.name ++ " " ++ k.name ++ " client: " ++ s.message
  | contractNotDeployed a => "No contract is deployed at " ++ a.toText
  | cancelled => "Wait was cancelled"

/-- The name of the error's kind, with the kind of its cause when it has one. -/
def kindName : HealthError → String
  | noAvailableClient .. => "NoAvailableClient"
  | notReady .. => "NotReady"
  | transport _ _ s => "Transport." ++ s.kindName
  | contractNotDeployed _ => "ContractNotDeployed"
  | cancelled => "Cancelled"

end HealthError

end ChainWatch
