import ChainWatch.Health.Gates
import ChainWatch.State.Fetch
import ChainWatch.State.Snapshot
import ChainWatch.State.Config

/-!
# The network state manager

The manager builds snapshots of the network and publishes the latest complete one.

A build picks its clients once, execution first, then beacon, each through the tracker
(`Tracker.readyRole`). It then finds its target slot (the slot of the newest execution block,
the last slot of the finalized epoch, or a given slot), walks back from it to the slot floor
until a block is found (`Manager.resolveBlock`), needs that block to carry an execution payload,
and reads, at that payload's block, the details of the network beside the details of the
entities (`Manager.assemble`). A build that reads every entity is published when it completes
(`Manager.buildAndPublish`); a failed build leaves the published snapshot as it was.

Every public operation stops with `cancelled` as soon as its token is cancelled.
-/

namespace ChainWatch

/-- The manager of snapshots over the tracker's services; `D` are the details of an entity and
`N` those of the network. -/
structure Manager (σ D N : Type) where
  tracker : Tracker σ
  fetcher : DetailsFetcher σ D N
  chain : ChainConfig
  config : StateConfig
  /-- The published snapshot, as kept in the world. -/
  latest : σ → Option (Snapshot D N)
  /-- Publishes a snapshot in the world. -/
  publish : Snapshot D N → σ → σ
  /-- A fresh identity for a snapshot. -/
  freshId : Fiber σ Nat

/-- Ends with `cancelled` as soon as the token is, else with the value of `body`. -/
def cancellable [VirtualClock σ] (tok : CancelToken) (body : Fiber σ (Except StateError α)) :
    Fiber σ (Except StateError α) :=
  Fiber.bind (Fiber.race tok.cancelled body) fun
    | .inl () => .done (.error .cancelled)
    | .inr r => .done r

namespace Manager

variable [TrackerWorld σ] (m : Manager σ D N)

/-- A ready execution instance. -/
def readyExecution : Fiber σ (Except StateError (ExecutionApi σ)) :=
  Fiber.bind (m.tracker.readyRole .execution) fun
    | .error e => .done (.error (.health e))
    | .ok role => match m.tracker.execution.get? role with
      | some api => .done (.ok api)
      | none => .done (.error (.health (.noAvailableClient .execution "" none)))

/-- A ready beacon instance. -/
def readyBeacon : Fiber σ (Except StateError (BeaconApi σ)) :=
  Fiber.bind (m.tracker.readyRole .beacon) fun
    | .error e => .done (.error (.health e))
    | .ok role => match m.tracker.beacon.get? role with
      | some api => .done (.ok api)
      | none => .done (.error (.health (.noAvailableClient .beacon "" none)))

/-- The slot of the newest execution block. -/
def headSlotWith (api : ExecutionApi σ) : Fiber σ (Except StateError Nat) :=
  Fiber.bind (api.headerByNumber none) fun
    | .error e => .done (.error (.client "fetching the latest execution block" e))
    | .ok h => .done ((m.chain.slotAt h.timestamp).mapError .configuration)

/-- The last slot of the finalized epoch. -/
def finalizedSlotWith (api : BeaconApi σ) : Fiber σ (Except StateError Nat) :=
  Fiber.bind api.beaconHead fun
    | .error e => .done (.error (.client "fetching the Beacon chain head" e))
    | .ok head => .done ((m.chain.lastSlotOfEpoch head.finalizedEpoch).mapError .configuration)

/-- Asks for the blocks at `slot`, `slot - 1`, … for `count` slots, and gives the first found. -/
def walkBack (api : BeaconApi σ) (fromSlot : Nat) : Nat → Nat → Fiber σ (Except StateError BeaconBlock)
  | 0, _ => .done (.error (.missingData fromSlot m.config.slotFloor))
  | count + 1, slot => Fiber.bind (api.beaconBlock slot) fun
    | .error e => .done (.error (.client ("fetching the Beacon block at slot " ++ Nat.repr slot) e))
    | .ok (some b) => .done (.ok b)
    | .ok none => walkBack api fromSlot count (slot - 1)

/-- The block at `fromSlot` or at the nearest earlier slot down to the floor that has one. -/
def resolveBlock (api : BeaconApi σ) (fromSlot : Nat) : Fiber σ (Except StateError BeaconBlock) :=
  m.walkBack api fromSlot (fromSlot + 1 - m.config.slotFloor) fromSlot

/-- The entities a build reads at block `n`: every one known there, or the one asked for. -/
def entitiesAt (exec : ExecutionApi σ) (n : Nat) : EntityFilter → Fiber σ (Except StateError (List Address))
  | .all => Fiber.bind (m.fetcher.entityAddresses exec n) fun
    | .error e => .done (.error (.client ("enumerating entities at block " ++ Nat.repr n) e))
    | .ok as => .done (.ok as)
  | .single a => .done (.ok [a])

/-- The details of the network at block `n`. -/
def networkAt (exec : ExecutionApi σ) (n : Nat) : Fiber σ (Except StateError N) :=
  Fiber.bind (m.fetcher.networkDetails exec n) fun
    | .error e => .done (.error (.client ("fetching network details at block " ++ Nat.repr n) e))
    | .ok x => .done (.ok x)

/-- Builds a snapshot at a target slot with the chosen clients. -/
def assemble (exec : ExecutionApi σ) (beacon : BeaconApi σ) (targetSlot : Nat)
    (filter : EntityFilter) : Fiber σ (Except StateError (Snapshot D N)) :=
  Fiber.bind (m.resolveBlock beacon targetSlot) fun
    | .error e => .done (.error e)
    | .ok block => match block.executionBlock with
      | none => .done (.error (.missingExecutionPayload block.slot))
      | some n =>
        Fiber.bind (m.entitiesAt exec n filter) fun
          | .error e => .done (.error e)
          | .ok addresses =>
            let details := m.fetcher.fetchInBatches exec n addresses m.config.batchSize
              m.config.maxConcurrentBatches
            Fiber.bind (bothOrFail (m.networkAt exec n) details) fun
              | .error e => .done (.error e)
              | .ok (x, ds) => Fiber.bind m.freshId fun id =>
                .done (.ok { id, targetSlot, block, chain := m.chain, executionBlock := n,
                             network := x, details := ds })

/-- The slot a build aims at, read through its clients. -/
def targetSlotWith (exec : ExecutionApi σ) (beacon : BeaconApi σ) : BuildTarget → Fiber σ (Except StateError Nat)
  | .head => m.headSlotWith exec
  | .finalized => m.finalizedSlotWith beacon
  | .slot n => .done (.ok n)

/-- Builds a snapshot: clients first, then the target slot, then the snapshot itself. -/
def build (target : BuildTarget) (filter : EntityFilter) : Fiber σ (Except StateError (Snapshot D N)) :=
  Fiber.bind m.readyExecution fun
    | .error e => .done (.error e)
    | .ok exec => Fiber.bind m.readyBeacon fun
      | .error e => .done (.error e)
      | .ok beacon =>
        Fiber.bind (m.targetSlotWith exec beacon target) fun
          | .error e => .done (.error e)
          | .ok s => m.assemble exec beacon s filter

/-- Publishes a built snapshot when it reads every entity. -/
def publishIfComplete (filter : EntityFilter) :
    Except StateError (Snapshot D N) → Fiber σ (Except StateError (Snapshot D N))
  | .ok s => if filter = .all then .update (m.publish s) (.done (.ok s)) else .done (.ok s)
  | .error e => .done (.error e)

/-- Builds a snapshot and publishes it when it reads every entity. -/
def buildAndPublish (target : BuildTarget) (filter : EntityFilter) (tok : CancelToken) :
    Fiber σ (Except StateError (Snapshot D N)) :=
  Fiber.bind (cancellable tok (m.build target filter)) (m.publishIfComplete filter)

/-- The slot of the newest execution block, through a ready execution instance. -/
def headSlot : Fiber σ (Except StateError Nat) :=
  Fiber.bind m.readyExecution fun
    | .error e => .done (.error e)
    | .ok exec => m.headSlotWith exec

/-- The block at or below a slot. -/
def latestProposedBlock (fromSlot : Nat) (tok : CancelToken) : Fiber σ (Except StateError BeaconBlock) :=
  cancellable tok (Fiber.bind m.readyBeacon fun
    | .error e => .done (.error e)
    | .ok beacon => m.resolveBlock beacon fromSlot)

/-- The block at or below the slot of the newest execution block. -/
def latestBeaconBlock (tok : CancelToken) : Fiber σ (Except StateError BeaconBlock) :=
  cancellable tok (Fiber.bind m.readyExecution fun
    | .error e => .done (.error e)
    | .ok exec => Fiber.bind m.readyBeacon fun
      | .error e => .done (.error e)
      | .ok beacon => Fiber.bind (m.headSlotWith exec) fun
        | .error e => .done (.error e)
        | .ok slot => m.resolveBlock beacon slot)

/-- The block at or below the last slot of the finalized epoch. -/
def latestFinalizedBeaconBlock (tok : CancelToken) : Fiber σ (Except StateError BeaconBlock) :=
  cancellable tok (Fiber.bind m.readyBeacon fun
    | .error e => .done (.error e)
    | .ok beacon => Fiber.bind (m.finalizedSlotWith beacon) fun
      | .error e => .done (.error e)
      | .ok slot => m.resolveBlock beacon slot)

/-- A snapshot that is built and not published. -/
def stateAt (target : BuildTarget) (tok : CancelToken) : Fiber σ (Except StateError (Snapshot D N)) :=
  cancellable tok (m.build target .all)

end Manager

/-- Reads the chain configuration from a ready beacon instance, for a manager to be made with. -/
def Tracker.chainConfig [TrackerWorld σ] (t : Tracker σ) : Fiber σ (Except StateError ChainConfig) :=
  Fiber.bind (t.readyRole .beacon) fun
    | .error e => .done (.error (.health e))
    | .ok role => match t.beacon.get? role with
      | none => .done (.error (.health (.noAvailableClient .beacon "" none)))
      | some api => Fiber.bind api.chainConfig fun
        | .error e => .done (.error (.client "fetching the Beacon configuration" e))
        | .ok c => .done (.ok c)

end ChainWatch
