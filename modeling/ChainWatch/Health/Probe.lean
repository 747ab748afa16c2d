import ChainWatch.Client.Api
import ChainWatch.Chain.Time

/-!
# Probing an instance

One probe asks an instance whether it is synced (`SyncPoll`):

* an execution node that reports a sync range not yet complete is syncing with that progress;
  otherwise it is synced when its newest block is recent against the wall clock, and syncing
  without a progress when it is not (`ExecutionApi.pollSynced`);
* a beacon node is syncing with its progress while it says it is syncing, synced otherwise
  (`BeaconApi.pollSynced`).

A failed request makes the probe fail; as a health, a failure is the instance being
unavailable for the reason the error gives (`SyncPoll.health`).
-/

namespace ChainWatch

/-- What one probe of an instance found. -/
inductive SyncPoll where
  | syncing (progress : Option Binary64)
  | synced
  deriving DecidableEq

/-- The health a probe shows: a failed probe leaves the instance unavailable. -/
def SyncPoll.health : Except ClientError SyncPoll → Health
  | .ok (.syncing p) => .syncing p
  | .ok .synced => .synced
  | .error e => .unavailable e.message

/-- Probes an execution node; `wallClock` is the Unix time in seconds, `thresholdMs` the age
below which a block is recent. -/
def ExecutionApi.pollSynced (api : ExecutionApi σ) (thresholdMs wallClock : Nat) :
    Fiber σ (Except ClientError SyncPoll) :=
  Fiber.bind api.syncProgress fun
    | .error e => .done (.error e)
    | .ok (some p) =>
      if !p.isComplete then .done (.ok (.syncing (some p.fraction))) else newest
    | .ok none => newest
where
  /-- Judges the node by the age of its newest block. -/
  newest : Fiber σ (Except ClientError SyncPoll) :=
    Fiber.bind (api.headerByNumber none) fun
      | .error e => .done (.error e)
      | .ok h => .done (.ok (if isRecent h.timestamp wallClock thresholdMs then .synced else .syncing none))

/-- Probes a beacon node. -/
def BeaconApi.pollSynced (api : BeaconApi σ) : Fiber σ (Except ClientError SyncPoll) :=
  Fiber.bind api.syncStatus fun
    | .error e => .done (.error e)
    | .ok s => .done (.ok (if s.syncing then .syncing (some s.progress) else .synced))

end ChainWatch
