import ChainWatch.Health.Probe
import ChainWatch.Health.Error
import ChainWatch.Log.Record

/-!
# The health tracker

The tracker knows the instances of both services and the health each showed at its last probe,
kept in the world (`TrackerWorld`). Its decisions:

* `Tracker.evaluate` probes the instances of a service in order of precedence and records each
  health; the first synced one is ready at once, else the first syncing one is waited on, else
  no instance is available, and the error gives the failure of the primary and of the fallback;
* `Tracker.pollUntilSynced` evaluates, then polls the instance waited on every poll interval,
  evaluating afresh whenever the refresh interval has passed, until an instance is ready or a
  probe fails;
* `Tracker.waitUntilSynced` does that while holding the wait lock of the service, so that waits
  on one service follow one another in the order they came, under a time limit (none for zero)
  and a cancellation token that is looked at first.

The tracker warns in the log when it turns to the fallback of a service and when a wait runs out
of time.
-/

namespace ChainWatch

/-- What the tracker keeps in its world: the health of each instance, the wait lock of each
service, the tickets handed to those who wait for a lock, and the log it writes to. -/
class TrackerWorld (σ : Type) extends VirtualClock σ where
  health : σ → ServiceKind → Role → Health
  setHealth : σ → ServiceKind → Role → Health → σ
  waitLock : σ → ServiceKind → FairLock
  setWaitLock : σ → ServiceKind → FairLock → σ
  ticket : σ → Nat
  setTicket : σ → Nat → σ
  log : σ → LogRecord → σ

namespace TrackerWorld

variable [TrackerWorld σ]

/-- Records the health of an instance. -/
def record (kind : ServiceKind) (role : Role) (h : Health) : Fiber σ Unit :=
  Fiber.modify fun w => setHealth w kind role h

/-- Writes a warning of the tracker to the log. -/
def warn (message : String) : Fiber σ Unit :=
  Fiber.modify fun w => log w { level := .warn, target := "network_state::health::tracker", message }

/-- A fresh ticket for a lock. -/
def freshTicket : Fiber σ Nat :=
  .read fun w => .update (fun w => setTicket w (ticket w + 1)) (.done (ticket w))

end TrackerWorld

/-- When a token cancels what is done with it. -/
inductive CancelToken where
  /-- Never. -/
  | never
  /-- From the start: it is cancelled already. -/
  | already
  /-- At millisecond `t`, by an event from outside, after what the fibers do at `t`. -/
  | firesAt (t : Nat)
  deriving DecidableEq

/-- Ends when the token is cancelled. -/
def CancelToken.cancelled [VirtualClock σ] : CancelToken → Fiber σ Unit
  | .never => Fiber.hang
  | .already => .done ()
  | .firesAt t => Fiber.waitEvent t

/-- Which instance a service should use: one that is ready, or one to wait on. -/
inductive Selection where
  | ready (role : Role)
  | waitOn (role : Role)
  deriving DecidableEq

/-- The health reports of a service's instances. -/
structure StatusReport where
  kind : ServiceKind
  primary : SyncStatus
  fallback : Option SyncStatus

instance : Inhabited HealthError := ⟨.cancelled⟩

/-- The health tracker of both services. -/
structure Tracker (σ : Type) where
  execution : Endpoints (ExecutionApi σ)
  beacon : Endpoints (BeaconApi σ)
  config : HealthConfig
  /-- The Unix time in seconds that block times are compared with. -/
  wallClock : Nat

namespace Tracker

variable [TrackerWorld σ] (t : Tracker σ)

/-- The roles of a service's instances, in order of precedence. -/
def roles : ServiceKind → List Role
  | .execution => t.execution.roles
  | .beacon => t.beacon.roles

/-- Whether a service has a fallback. -/
def hasFallback : ServiceKind → Bool
  | .execution => t.execution.hasFallback
  | .beacon => t.beacon.hasFallback

/-- The probe of an instance, if the service has that role. -/
def probe? (kind : ServiceKind) (role : Role) : Option (Fiber σ (Except ClientError SyncPoll)) :=
  match kind with
  | .execution => (t.execution.get? role).map fun api =>
      api.pollSynced t.config.recentBlockThreshold t.wallClock
  | .beacon => (t.beacon.get? role).map BeaconApi.pollSynced

/-- Probes an instance; a missing instance cannot be reached. -/
def poll (kind : ServiceKind) (role : Role) : Fiber σ (Except ClientError SyncPoll) :=
  (t.probe? kind role).getD (.done (.error (.connection role.name)))


/-- The recorded health of an instance. -/
def healthIn (w : σ) (kind : ServiceKind) (role : Role) : Health := TrackerWorld.health w kind role

/-- The failure text of an instance as recorded, if the service has that role. -/
def failureIn (w : σ) (kind : ServiceKind) (role : Role) : Option String :=
  if role ∈ t.roles kind then (healthIn w kind role).error? else none

/-- The warning written when a service turns to its fallback. -/
def fallbackWarning (kind : ServiceKind) : String :=
  "Primary " ++ kind.name ++ " client is not synced, using the fallback client"

/-- Probes the instances in order and records their health, stopping at the first synced one. -/
def scan (kind : ServiceKind) : List Role → Option Role → Fiber σ (Except HealthError Selection)
  | [], some r => .done (.ok (.waitOn r))
  | [], none => .read fun w =>
      .done (.error (.noAvailableClient kind ((t.failureIn w kind .primary).getD "")
        (t.failureIn w kind .fallback)))
  | r :: rs, waiting => Fiber.bind (t.poll kind r) fun res =>
      let h := SyncPoll.health res
      Fiber.bind (TrackerWorld.record kind r h) fun () =>
        match h with
        | .synced =>
          if r = .fallback then
            Fiber.bind (TrackerWorld.warn (fallbackWarning kind)) fun () => .done (.ok (.ready r))
          else .done (.ok (.ready r))
        | .syncing _ => scan kind rs (waiting.orElse fun _ => some r)
        | _ => scan kind rs waiting

/-- Probes the instances of a service in order of precedence and selects one. -/
def evaluate (kind : ServiceKind) : Fiber σ (Except HealthError Selection) :=
  t.scan kind (t.roles kind) none

/-- The role of a ready instance; waiting on one is not being ready. -/
def readyRole (kind : ServiceKind) : Fiber σ (Except HealthError Role) :=
  Fiber.bind (t.evaluate kind) fun
    | .ok (.ready r) => .done (.ok r)
    | .ok (.waitOn _) => .done (.error (.notReady kind 0))
    | .error e => .done (.error e)

/-- One round of the wait: `selection` is the current choice, `lastRefresh` the instant of the
last evaluation. -/
def pollRound (kind : ServiceKind) : Selection × Nat →
    Fiber σ ((Selection × Nat) ⊕ Except HealthError Bool)
  | (.ready _, _) => .done (.inr (.ok true))
  | (.waitOn role, lastRefresh) => Fiber.bind Fiber.now fun now =>
    if t.config.statusRefreshInterval ≤ now - lastRefresh then
      Fiber.bind (t.evaluate kind) fun
        | .error e => .done (.inr (.error e))
        | .ok sel => Fiber.bind Fiber.now fun now' => .done (.inl (sel, now'))
    else
      Fiber.bind (t.poll kind role) fun
        | .ok .synced => Fiber.bind (TrackerWorld.record kind role .synced) fun () => .done (.inr (.ok true))
        | .ok (.syncing p) => Fiber.bind (TrackerWorld.record kind role (.syncing p)) fun () =>
            Fiber.bind (Fiber.sleep t.config.pollInterval) fun () =>
              .done (.inl (.waitOn role, lastRefresh))
        | .error e => Fiber.bind (TrackerWorld.record kind role (.unavailable e.message)) fun () =>
            .done (.inr (.error (.transport kind role e)))

/-- Evaluates, then polls the instance waited on until one is ready or a probe fails. -/
def pollUntilSynced (kind : ServiceKind) : Fiber σ (Except HealthError Bool) :=
  Fiber.bind Fiber.now fun start =>
    Fiber.bind (t.evaluate kind) fun
      | .error e => .done (.error e)
      | .ok sel => Fiber.loop Fiber.rounds (t.pollRound kind) (sel, start)


/-- Waits until a service is synced, holding its wait lock, for at most `timeoutMs` (no limit
for zero): `true` when synced, `false` when the time ran out. -/
def waitUntilSynced (kind : ServiceKind) (timeoutMs : Nat) (tok : CancelToken) :
    Fiber σ (Except HealthError Bool) :=
  let bounded : Fiber σ (Except HealthError Bool) :=
    if timeoutMs = 0 then t.pollUntilSynced kind
    else Fiber.bind (Fiber.race (t.pollUntilSynced kind) (Fiber.sleep timeoutMs)) fun
      | .inl r => .done r
      | .inr () => Fiber.bind (TrackerWorld.warn ("Timed out after " ++ spanText timeoutMs ++
          " waiting for the " ++ kind.name ++ " client to sync")) fun () => .done (.ok false)
  Fiber.bind TrackerWorld.freshTicket fun ticket =>
    Fiber.bind (Fiber.race tok.cancelled
        (Fiber.holding (TrackerWorld.waitLock · kind) (TrackerWorld.setWaitLock · kind) ticket bounded)) fun
      | .inl () => .done (.error .cancelled)
      | .inr r => .done r

/-- The health reports of a service's instances, as recorded in `w`. -/
def statusReport (w : σ) (kind : ServiceKind) : StatusReport :=
  { kind, primary := (healthIn w kind .primary).status,
    fallback := if t.hasFallback kind then some (healthIn w kind .fallback).status else none }

end Tracker

end ChainWatch
