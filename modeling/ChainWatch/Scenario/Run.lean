import ChainWatch.Scenario.Step

/-!
# Running a scenario

Each step of a scenario runs on the world the previous step left, raced against a guard of
3600007 ms of virtual time: a step the guard beats is dropped where it stands. The report of a
step gives its answer, the virtual time it took, what each node was asked during it, and the
health recorded after it (`Scenario.run`).

Steps run side by side start in list order after their own delays, and report when each
finished, counted from the start of the whole step.

The recency of an execution node's newest block is judged against the wall clock given to the
run.
-/

namespace ChainWatch

/-- The guard every step is raced against, in milliseconds of virtual time. -/
def stepGuardMs : Nat := 3600007

/-- The most scheduling steps one step of a scenario may take. -/
def stepFuel : Nat := 400000000

/-- The answer to a request the run cannot read. -/
def badInput (message : String) : Json := Report.failure "BadInput" message

/-- The answer to a manager step before a manager was made. -/
def noManager : Json := Report.failure "NoManager" "no manager was created"

/-- The answer of a health result. -/
def healthAnswer (f : α → Json) : Except HealthError α → Json
  | .ok a => Report.ok (f a)
  | .error e => e.toJson

/-- The answer of a snapshot result. -/
def stateAnswer (f : α → Json) : Except StateError α → Json
  | .ok a => Report.ok (f a)
  | .error e => e.toJson

/-- The JSON form of a status report. -/
def StatusReport.toJson (r : StatusReport) : Json :=
  .obj [("kind", .str r.kind.name), ("primary", r.primary.toJson),
    ("fallback", Json.ofOption SyncStatus.toJson r.fallback)]

/-- The JSON form of a snapshot of accounts, saying whether it is the published one when asked. -/
def accountSnapshotJson (s : Snapshot AccountDetails ExecutionHeader) (isLatest : Option Bool) : Json :=
  let slotTime : Json := match s.slotTime with
    | .ok t => .nat t
    | .error e => e.toJson
  .obj ([("target_slot", .nat s.targetSlot), ("resolved_slot", .nat s.resolvedSlot),
    ("is_substituted", .bool s.isSubstituted), ("block", s.block.summary),
    ("beacon_config", s.chain.toJson), ("execution_block_number", .nat s.executionBlock),
    ("network_details", s.network.toJson),
    ("details", .arr (s.details.map fun (a, d) => .arr [a.toJson, d.toJson])),
    ("slot_time", slotTime)] ++ (isLatest.map fun b => [("is_latest", Json.bool b)]).getD [])

/-- The JSON form of a sync poll. -/
def SyncPoll.toJson : SyncPoll → Json
  | .synced => .obj [("poll", .str "synced")]
  | .syncing p => .obj [("poll", .str "syncing"), ("progress", Json.ofOption .float p)]

/-- The JSON form of a selection. -/
def Selection.toJson : Selection → Json
  | .ready r => .obj [("ready", .str r.name), ("is_ready", .bool true)]
  | .waitOn r => .obj [("wait_on", .str r.name), ("is_ready", .bool false)]

namespace Action

variable (t : Tracker World) (tok : CancelToken)

/-- Runs a manager step with the manager the world holds. -/
def withManager (f : Manager World AccountDetails ExecutionHeader → Fiber World Json) : Fiber World Json :=
  .read fun w => match w.manager with
    | none => .done noManager
    | some slot => f (World.managerOf t slot)

/-- Builds a head snapshot with a separate manager over a scripted fetcher. -/
def scriptedState (chain : ChainConfig) (config : StateConfig) (script : FetcherScript) : Fiber World Json :=
  let m : Manager World EntityEcho Nat :=
    { tracker := t, fetcher := script.fetcher (·.fetcherBatches) (fun w b => { w with fetcherBatches := b }),
      chain, config, latest := fun _ => none, publish := fun _ w => w, freshId := World.freshSnapshotId }
  .update (fun w => { w with fetcherBatches := [] })
    (Fiber.bind (m.stateAt .head tok) fun r => .read fun w =>
      let batches := ("batches", Json.arr (w.fetcherBatches.map .nat))
      .done (match r with
        | .ok s => Report.ok (.obj [("target_slot", .nat s.targetSlot), ("resolved_slot", .nat s.resolvedSlot),
            ("execution_block_number", .nat s.executionBlock), ("network_details", .nat s.network),
            ("details", .arr (s.details.map fun (a, e) => .arr [a.toJson, e.toJson])), batches])
        | .error e => match e.toJson with
          | .obj ms => .obj (ms ++ [batches])
          | other => other))

/-- Runs what a step does and gives its answer. -/
def run : Action → Fiber World Json
  | .checkStatus kind => (healthAnswer Selection.toJson) <$> t.evaluate kind
  | .waitUntilSynced kind timeout => (healthAnswer Json.bool) <$> t.waitUntilSynced kind timeout tok
  | .requireSynced kind => (healthAnswer fun () => .null) <$> t.requireSynced kind tok
  | .waitSynced kind => (healthAnswer fun () => .null) <$> t.waitSynced kind tok
  | .requireContract a => (healthAnswer fun () => .null) <$> t.requireContract a tok
  | .waitContract a => (healthAnswer fun () => .null) <$> t.waitContract a tok
  | .readyClient kind => (healthAnswer fun r => .str r.name) <$> t.readyRole kind
  | .statusReport kind => .read fun w => .done (Report.ok (t.statusReport w kind).toJson)
  | .probe kind role asHealth => match t.probe? kind role with
    | none => .done (badInput ("no " ++ role.name ++ " " ++ kind.name ++ " client"))
    | some p => Fiber.bind p fun r =>
      if asHealth then .done (Report.ok (SyncPoll.health r).toJson)
      else .done (match r with
        | .ok poll => Report.ok poll.toJson
        | .error e => e.toJson)
  | .concurrentWait kind count timeout =>
    Fiber.bind (Fiber.all (List.replicate count (t.waitUntilSynced kind timeout tok))) fun rs =>
      .done (Report.ok (.arr (rs.map fun
        | .ok b => .bool b
        | .error e => e.toJson)))
  | .hasFallback kind => .done (Report.ok (.bool (t.hasFallback kind)))
  | .endpointRoles kind => .done (Report.ok (.arr ((t.roles kind).map fun r => .str r.name)))
  | .latestEntity a => .read fun w => .done (match w.manager with
    | none => noManager
    | some slot => Report.ok (match slot.latest with
      | none => .null
      | some s => .obj [("entity", Json.ofOption AccountDetails.toJson (s.entity? a))]))
  | .changeExecution role f => .update (fun w => w.setExecutionNode role (f (w.executionNode role)))
      (.done (Report.ok .null))
  | .changeBeacon role f => .update (fun w => w.setBeaconNode role (f (w.beaconNode role)))
      (.done (Report.ok .null))
  | .newManager chain config accounts => match chain, config with
    | .error e, _ => .done e.toJson
    | _, .error e => .done e.toJson
    | .ok chain, .ok config =>
      .update (fun w => { w with manager := some { chain, config, accounts } }) (.done (Report.ok .null))
  | .connect config accounts => match config with
    | .error e => .done e.toJson
    | .ok config => Fiber.bind t.chainConfig fun
      | .error e => .done e.toJson
      | .ok chain => .update (fun w => { w with manager := some { chain, config, accounts } })
          (.done (Report.ok chain.toJson))
  | .headSlot => withManager t fun m => (stateAnswer Json.nat) <$> m.headSlot
  | .latestProposedBlock s => withManager t fun m =>
      (stateAnswer BeaconBlock.summary) <$> m.latestProposedBlock s tok
  | .latestBeaconBlock => withManager t fun m => (stateAnswer BeaconBlock.summary) <$> m.latestBeaconBlock tok
  | .latestFinalizedBeaconBlock => withManager t fun m =>
      (stateAnswer BeaconBlock.summary) <$> m.latestFinalizedBeaconBlock tok
  | .stateAt target => withManager t fun m =>
      (stateAnswer fun s => accountSnapshotJson s none) <$> m.stateAt target tok
  | .buildAndPublish target filter => withManager t fun m =>
      Fiber.bind (m.buildAndPublish target filter tok) fun r => .read fun w =>
        let published := (m.latest w).map (·.id)
        .done (stateAnswer (fun s => accountSnapshotJson s (some (published == some s.id))) r)
  | .latestState => withManager t fun m => .read fun w =>
      .done (Report.ok (Json.ofOption (accountSnapshotJson · none) (m.latest w)))
  | .scriptedFetcherState chain config script => match chain, config with
    | .error e, _ => .done e.toJson
    | _, .error e => .done e.toJson
    | .ok chain, .ok config => scriptedState t tok chain config script

end Action

/-- Runs a step and gives its answer. -/
def Step.run (t : Tracker World) : Except String Step → Fiber World Json
  | .error msg => .done (badInput msg)
  | .ok (.single action cancel) => Fiber.bind Fiber.now fun start => action.run t (cancel.token start)
  | .ok (.concurrent steps) => Fiber.bind Fiber.now fun start =>
    let side (s : SideStep) : Fiber World Json := match s.action with
      | .error msg => .done (badInput msg)
      | .ok a => Fiber.bind (Fiber.sleep s.startMs) fun () => Fiber.bind Fiber.now fun begun =>
        Fiber.bind (a.run t (s.cancel.token begun)) fun r => Fiber.bind Fiber.now fun finished =>
          .done (.obj [("result", r), ("finished_ms", .nat (finished - start))])
    Fiber.bind (Fiber.all (steps.map side)) fun rs => .done (Report.ok (.arr rs))

/-- A scenario: the timing of the tracker, the scripted nodes, and the steps. -/
structure Scenario where
  config : HealthConfig
  execution : Endpoints ScriptedExecution
  beacon : Endpoints ScriptedBeacon
  steps : List (Except String Step)

namespace Scenario

/-- Reads a scenario; a step that cannot be read is kept as the reason. -/
def ofJson (j : Json) : Except String Scenario := do
  pure { config := ← Spec.healthConfig (j.get? "health_config"),
         execution := ← Spec.service Spec.execution {} (j.get? "execution"),
         beacon := ← Spec.service Spec.beacon {} (j.get? "beacon"),
         steps := (← j.listField "steps").map Spec.step }

/-- Runs one step against the guard and reports it. -/
def runStep (t : Tracker World) (w : World) (step : Except String Step) : World × Json :=
  let guarded := Fiber.race (Step.run t step) (Fiber.sleep stepGuardMs)
  let (w', r) := Fiber.run stepFuel w guarded
  let result := match r with
    | some (.inl answer) => answer
    | _ => Report.failure "GuardTimeout"
        ("step did not finish within " ++ Nat.repr stepGuardMs ++ " ms of virtual time")
  (w', .obj [("result", result), ("elapsed_ms", .nat (w'.tick / 2 - w.tick / 2)), ("calls", World.calls w w'),
    ("health", w'.healthJson)])

/-- Runs every step of a scenario in turn, judging block recency against `wallClock`. -/
def run (s : Scenario) (wallClock : Nat) : List Json :=
  let w := World.start s.execution s.beacon
  let t := w.tracker s.config wallClock
  (s.steps.foldl (fun (w, out) step => let (w', r) := runStep t w step; (w', r :: out)) (w, [])).2.reverse

end Scenario

end ChainWatch

namespace ChainWatch

/-- Adds members to the JSON form of a failure. -/
def Json.withMembers (extra : List (String × Json)) : Json → Json
  | .obj ms => .obj (ms ++ extra)
  | other => other

/-- The outcome of a read of entity details in batches, with the batch sizes asked for: the
details, or the report of the failure. -/
def fetchAnswer (detail : D → Json) (batches : List Nat) :
    Option (Except StateError (List (Address × D))) → Except Json Json
  | some (.ok ds) => .ok (.obj [("details", .arr (ds.map fun (a, d) => .arr [a.toJson, detail d])),
      ("batches", .arr (batches.map .nat))])
  | some (.error e) => .error (e.toJson.withMembers [("batches", .arr (batches.map .nat))])
  | none => .error (Report.failure "GuardTimeout" "the read did not finish")

/-- Reads the details of accounts at a block in batches from a scripted execution node. -/
def fetchAccounts (node : ScriptedExecution) (block : Nat) (accounts : List Address)
    (batchSize concurrency : Nat) : Except Json Json :=
  let w := World.start ⟨node, none⟩ ⟨{}, none⟩
  let read := (accountFetcher accounts).fetchInBatches (World.executionApi .primary) block accounts
    batchSize concurrency
  let (w', r) := Fiber.run stepFuel w read
  fetchAnswer AccountDetails.toJson (w'.executionNode .primary).batches r

/-- Reads entity details at a block in batches from a scripted fetcher. -/
def fetchScripted (script : FetcherScript) (block : Nat) (entities : List Address)
    (batchSize concurrency : Nat) : Except Json Json :=
  let w := World.start ⟨{}, none⟩ ⟨{}, none⟩
  let fetcher := script.fetcher (·.fetcherBatches) (fun w b => { w with fetcherBatches := b })
  let read := fetcher.fetchInBatches (World.executionApi .primary) block entities batchSize concurrency
  let (w', r) := Fiber.run stepFuel w read
  fetchAnswer EntityEcho.toJson w'.fetcherBatches r

end ChainWatch
