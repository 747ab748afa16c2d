import ChainWatch.Scripted.Execution
import ChainWatch.Scripted.Beacon
import ChainWatch.Scripted.Fetcher
import ChainWatch.State.Manager
import ChainWatch.State.Accounts
import ChainWatch.Report.Error

/-!
# The world of a scenario

A scenario runs a tracker and a manager against scripted nodes on virtual time. Its world holds
the clock, the scripted nodes of both services (a primary and possibly a fallback each), the
health the tracker recorded for each, the wait locks, the counters of tickets and snapshots,
and the manager made by the scenario, with its published snapshot.

`World.tracker` is the tracker over the world's nodes; `World.managerOf` the manager of accounts
made by the scenario. `World.calls` reports what each node was asked between two worlds, and
`World.healthJson` the recorded health.
-/

namespace ChainWatch

/-- The manager made by a scenario: its settings and what it published. -/
structure ManagerSlot where
  chain : ChainConfig
  config : StateConfig
  accounts : List Address
  latest : Option (Snapshot AccountDetails ExecutionHeader) := none

/-- The world of a scenario. -/
structure World where
  /-- The virtual time, in ticks of half a millisecond. -/
  tick : Nat := 0
  execution : Endpoints ScriptedExecution
  beacon : Endpoints ScriptedBeacon
  executionHealth : Endpoints Health
  beaconHealth : Endpoints Health
  executionLock : FairLock := {}
  beaconLock : FairLock := {}
  tickets : Nat := 0
  snapshots : Nat := 0
  manager : Option ManagerSlot := none
  /-- The sizes of the batches a scripted fetcher was asked for, in order. -/
  fetcherBatches : List Nat := []

namespace World

/-- A world with these nodes, nothing probed and no manager. -/
def start (execution : Endpoints ScriptedExecution) (beacon : Endpoints ScriptedBeacon) : World :=
  { execution, beacon, executionHealth := execution.map fun _ => .unknown,
    beaconHealth := beacon.map fun _ => .unknown }

/-- The recorded health of an instance. -/
def health (w : World) (kind : ServiceKind) (role : Role) : Health :=
  let hs := match kind with
    | .execution => w.executionHealth
    | .beacon => w.beaconHealth
  (hs.get? role).getD .unknown

/-- Records the health of an instance. -/
def setHealth (w : World) (kind : ServiceKind) (role : Role) (h : Health) : World :=
  match kind with
  | .execution => { w with executionHealth := w.executionHealth.set role h }
  | .beacon => { w with beaconHealth := w.beaconHealth.set role h }

instance : TrackerWorld World where
  now w := w.tick
  setNow w t := { w with tick := t }
  health := health
  setHealth := setHealth
  waitLock w
    | .execution => w.executionLock
    | .beacon => w.beaconLock
  setWaitLock w
    | .execution => fun l => { w with executionLock := l }
    | .beacon => fun l => { w with beaconLock := l }
  ticket w := w.tickets
  setTicket w t := { w with tickets := t }
  log w _ := w

/-- The scripted execution node of a role. -/
def executionNode (w : World) (role : Role) : ScriptedExecution := (w.execution.get? role).getD default

/-- The scripted beacon node of a role. -/
def beaconNode (w : World) (role : Role) : ScriptedBeacon := (w.beacon.get? role).getD default

/-- Replaces the scripted execution node of a role. -/
def setExecutionNode (w : World) (role : Role) (n : ScriptedExecution) : World :=
  { w with execution := w.execution.set role n }

/-- Replaces the scripted beacon node of a role. -/
def setBeaconNode (w : World) (role : Role) (n : ScriptedBeacon) : World :=
  { w with beacon := w.beacon.set role n }

/-- The requests of the scripted execution node of a role. -/
def executionApi (role : Role) : ExecutionApi World :=
  ScriptedExecution.api (executionNode · role) (setExecutionNode · role)

/-- The requests of the scripted beacon node of a role. -/
def beaconApi (role : Role) : BeaconApi World :=
  ScriptedBeacon.api (beaconNode · role) (setBeaconNode · role)

/-- The tracker over the nodes of a world. -/
def tracker (w : World) (config : HealthConfig) (wallClock : Nat) : Tracker World where
  execution := { primary := executionApi .primary,
                 fallback := w.execution.fallback.map fun _ => executionApi .fallback }
  beacon := { primary := beaconApi .primary, fallback := w.beacon.fallback.map fun _ => beaconApi .fallback }
  config
  wallClock

/-- A fresh snapshot identity. -/
def freshSnapshotId : Fiber World Nat :=
  .read fun w => .update (fun w => { w with snapshots := w.snapshots + 1 }) (.done w.snapshots)

/-- The manager of accounts a scenario made, over the world's tracker. -/
def managerOf (t : Tracker World) (slot : ManagerSlot) : Manager World AccountDetails ExecutionHeader where
  tracker := t
  fetcher := accountFetcher slot.accounts
  chain := slot.chain
  config := slot.config
  latest w := w.manager.bind (·.latest)
  publish s w := { w with manager := some { w.manager.getD slot with latest := some s } }
  freshId := freshSnapshotId

/-- What an execution node was asked between two of its states. -/
def executionCalls (before after : ScriptedExecution) : Json :=
  .obj [("sync", .nat (after.syncCalls - before.syncCalls)),
    ("header", .nat (after.headerCalls - before.headerCalls)),
    ("code", .nat (after.codeCalls - before.codeCalls)),
    ("batches", .arr ((after.batches.drop before.batches.length).map .nat))]

/-- What a beacon node was asked between two of its states. -/
def beaconCalls (before after : ScriptedBeacon) : Json :=
  .obj [("sync", .nat (after.syncCalls - before.syncCalls)),
    ("head", .nat (after.headCalls - before.headCalls)),
    ("config", .nat (after.configCalls - before.configCalls)),
    ("blocks", .arr ((after.requested.drop before.requested.length).map .nat))]

/-- What every node was asked between two worlds, by service and role. -/
def calls (before after : World) : Json :=
  let exec := after.execution.roles.map fun r =>
    ("execution." ++ r.name, executionCalls (before.executionNode r) (after.executionNode r))
  let beacon := after.beacon.roles.map fun r =>
    ("beacon." ++ r.name, beaconCalls (before.beaconNode r) (after.beaconNode r))
  .obj (exec ++ beacon)

/-- The recorded health of every instance, by service, in order of precedence. -/
def healthJson (w : World) : Json :=
  .obj [("execution", .arr (w.execution.roles.map fun r => (w.health .execution r).toJson)),
    ("beacon", .arr (w.beacon.roles.map fun r => (w.health .beacon r).toJson))]

end World

end ChainWatch
