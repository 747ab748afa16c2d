import ChainWatch.Binary64.Basic

/-!
# Health of backing services

Two kinds of service back the state (`ServiceKind`): an execution node and a beacon node. Each
has a primary instance and possibly a fallback (`Role`), tried in that order. The tracker keeps
the health each instance showed at its last probe (`Health`); `SyncStatus` is the report of one
health: whether the instance works, whether it is synced, its progress and what is wrong.

`HealthConfig` holds the intervals of polling and refreshing, the limit of the sync gates and
the age below which a block counts as recent, all in milliseconds.
-/

namespace ChainWatch

/-- The kind of a backing service. -/
inductive ServiceKind where
  | execution
  | beacon
  deriving DecidableEq, Inhabited

/-- The name of a kind of service. -/
def ServiceKind.name : ServiceKind → String
  | .execution => "execution"
  | .beacon => "beacon"

/-- Which instance of a service: the primary, or the fallback used when the primary is not. -/
inductive Role where
  | primary
  | fallback
  deriving DecidableEq, Inhabited

/-- The name of a role. -/
def Role.name : Role → String
  | .primary => "primary"
  | .fallback => "fallback"

/-- The health an instance showed at its last probe. -/
inductive Health where
  /-- Never probed. -/
  | unknown
  /-- Reachable and catching up, with its progress when it reports one. -/
  | syncing (progress : Option Binary64)
  | synced
  /-- The last probe failed for this reason. -/
  | unavailable (reason : String)
  deriving DecidableEq, Inhabited

namespace Health

/-- Whether the instance answered its last probe. -/
def isWorking : Health → Bool
  | syncing _ | synced => true
  | _ => false

/-- Whether the instance was synced at its last probe. -/
def isSynced : Health → Bool
  | synced => true
  | _ => false

/-- Why the instance is not usable, if it is not. -/
def error? : Health → Option String
  | unknown => some "client has not been probed yet"
  | unavailable reason => some reason
  | _ => none

/-- The progress to report: a synced instance is complete. -/
def progress? : Health → Option Binary64
  | syncing p => p
  | synced => some Binary64.one
  | _ => none

end Health

/-- The report of one health. -/
structure SyncStatus where
  isWorking : Bool
  isSynced : Bool
  syncProgress : Option Binary64
  error : Option String
  deriving DecidableEq

/-- The report of a health. -/
def Health.status (h : Health) : SyncStatus :=
  { isWorking := h.isWorking, isSynced := h.isSynced, syncProgress := h.progress?,
    error := h.error? }

/-- The timing of the tracker, in milliseconds. -/
structure HealthConfig where
  pollInterval : Nat := 5000
  statusRefreshInterval : Nat := 60000
  /-- The limit of the sync gates; zero waits without limit. -/
  syncTimeout : Nat := 16000
  recentBlockThreshold : Nat := 300000
  contractPollInterval : Nat := 15000
  deriving DecidableEq, Inhabited

end ChainWatch
