import ChainWatch.Health.Tracker

/-!
# Gates on the health of the services

A gate lets work go on only once a requirement holds:

* `requireSynced` waits for a service to be synced within the configured sync timeout, and
  fails with `notReady` when the time runs out; `waitSynced` waits without limit;
* `requireContract` also needs code at an address on a ready execution instance, and fails when
  there is none; `waitContract` checks again every contract poll interval until there is.

Every gate stops with `cancelled` as soon as its token is cancelled.
-/

namespace ChainWatch

namespace Tracker

variable [TrackerWorld σ] (t : Tracker σ)

/-- Waits for a service to be synced within `timeoutMs`, which the error reports. -/
def requireWithin (kind : ServiceKind) (timeoutMs : Nat) (tok : CancelToken) :
    Fiber σ (Except HealthError Unit) :=
  Fiber.bind (t.waitUntilSynced kind timeoutMs tok) fun
    | .ok true => .done (.ok ())
    | .ok false => .done (.error (.notReady kind timeoutMs))
    | .error e => .done (.error e)

/-- Waits for a service to be synced within the configured sync timeout. -/
def requireSynced (kind : ServiceKind) (tok : CancelToken) : Fiber σ (Except HealthError Unit) :=
  t.requireWithin kind t.config.syncTimeout tok

/-- Waits for a service to be synced, without limit. -/
def waitSynced (kind : ServiceKind) (tok : CancelToken) : Fiber σ (Except HealthError Unit) :=
  t.requireWithin kind 0 tok

/-- Whether a ready execution instance has code at the address. -/
def hasCode (address : Address) (tok : CancelToken) : Fiber σ (Except HealthError Bool) :=
  let check : Fiber σ (Except HealthError Bool) :=
    Fiber.bind (t.readyRole .execution) fun
      | .error e => .done (.error e)
      | .ok role => match t.execution.get? role with
        | none => .done (.error (.noAvailableClient .execution "" none))
        | some api => Fiber.bind (api.codeAt address none) fun
          | .error e => .done (.error (.transport .execution role e))
          | .ok code => .done (.ok !code.isEmpty)
  Fiber.bind (Fiber.race tok.cancelled check) fun
    | .inl () => .done (.error .cancelled)
    | .inr r => .done r

/-- Requires the execution service to be synced and code to be at the address. -/
def requireContract (address : Address) (tok : CancelToken) : Fiber σ (Except HealthError Unit) :=
  Fiber.bind (t.requireSynced .execution tok) fun
    | .error e => .done (.error e)
    | .ok () => Fiber.bind (t.hasCode address tok) fun
      | .ok true => .done (.ok ())
      | .ok false => .done (.error (.contractNotDeployed address))
      | .error e => .done (.error e)

/-- One round of waiting for code at the address. -/
def contractRound (address : Address) (tok : CancelToken) (_ : Unit) :
    Fiber σ (Unit ⊕ Except HealthError Unit) :=
  Fiber.bind (t.hasCode address tok) fun
    | .ok true => .done (.inr (.ok ()))
    | .error e => .done (.inr (.error e))
    | .ok false => Fiber.bind (Fiber.race tok.cancelled (Fiber.sleep t.config.contractPollInterval)) fun
      | .inl () => .done (.inr (.error .cancelled))
      | .inr () => .done (.inl ())

/-- Waits for the execution service to be synced, then for code at the address. -/
def waitContract (address : Address) (tok : CancelToken) : Fiber σ (Except HealthError Unit) :=
  Fiber.bind (t.waitSynced .execution tok) fun
    | .error e => .done (.error e)
    | .ok () => Fiber.loop Fiber.rounds (t.contractRound address tok) ()

end Tracker

end ChainWatch
