import ChainWatch.State.Manager
import ChainWatch.State.Accounts
import ChainWatch.Log.Record

/-!
# The world of the state daemon

The daemon keeps, beside the virtual time, what its tracker knows of the backing services (the
health of each instance, the wait locks and their tickets), the snapshots it made and the latest
one it published, and the records it logged. The services themselves are reached through a
transport and hold nothing here.
-/

namespace ChainWatch

/-- The world of the state daemon. -/
structure DaemonWorld where
  /-- The virtual time, in ticks of half a millisecond. -/
  tick : Nat := 0
  executionHealth : Endpoints Health
  beaconHealth : Endpoints Health
  executionLock : FairLock := {}
  beaconLock : FairLock := {}
  tickets : Nat := 0
  snapshots : Nat := 0
  latest : Option (Snapshot AccountDetails ExecutionHeader) := none
  /-- The records logged so far, in order. -/
  records : List LogRecord := []

namespace DaemonWorld

/-- The world at the start, with services of these instances, nothing probed yet. -/
def start (hasExecutionFallback hasBeaconFallback : Bool) : DaemonWorld :=
  { executionHealth := ⟨.unknown, if hasExecutionFallback then some .unknown else none⟩,
    beaconHealth := ⟨.unknown, if hasBeaconFallback then some .unknown else none⟩ }

/-- The recorded health of an instance. -/
def health (w : DaemonWorld) (kind : ServiceKind) (role : Role) : Health :=
  let hs := match kind with
    | .execution => w.executionHealth
    | .beacon => w.beaconHealth
  (hs.get? role).getD .unknown

/-- Records the health of an instance. -/
def setHealth (w : DaemonWorld) (kind : ServiceKind) (role : Role) (h : Health) : DaemonWorld :=
  match kind with
  | .execution => { w with executionHealth := w.executionHealth.set role h }
  | .beacon => { w with beaconHealth := w.beaconHealth.set role h }

instance : TrackerWorld DaemonWorld where
  now w := w.tick
  setNow w t := { w with tick := t }
  health := health
  setHealth := setHealth
  waitLock w
    | .execution => w.executionLock
    | .beacon => w.beaconLock
  setWaitLock w
    | .execution => fun l => { w with executionLock := l }
    | .beacon => fun l => { w with beaconLock := l }
  ticket w := w.tickets
  setTicket w t := { w with tickets := t }
  log w r := { w with records := w.records ++ [r] }

/-- Logs a record of the daemon itself. -/
def note (level : LogLevel) (message : String) : Fiber DaemonWorld Unit :=
  Fiber.modify fun w => { w with records := w.records ++ [{ level, target := "state_daemon", message }] }

/-- A fresh snapshot identity. -/
def freshSnapshotId : Fiber DaemonWorld Nat :=
  .read fun w => .update (fun w => { w with snapshots := w.snapshots + 1 }) (.done w.snapshots)

end DaemonWorld

end ChainWatch
