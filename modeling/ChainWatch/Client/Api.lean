import ChainWatch.Sim.Fiber
import ChainWatch.Client.Error
import ChainWatch.Chain.Codec
import ChainWatch.Health.Basic

/-!
# What the state needs of its backing services

An execution node is asked for block headers, its sync state, the code at an address and
batches of raw calls (`ExecutionApi`); a beacon node for the chain configuration, the
finality checkpoints of its head, the block at a slot and its sync state (`BeaconApi`). Each
request is a fiber over some world `σ`, so that a scripted node, a remote node or anything else
can stand behind it. `Endpoints` holds the primary instance of a service and possibly a
fallback, in order of precedence.
-/

namespace ChainWatch

instance : Inhabited ClientError := ⟨.connection ""⟩

/-- A single call to an execution node: a method and its parameters. -/
structure RpcCall where
  method : String
  params : Json

/-- The requests made to an execution node. -/
structure ExecutionApi (σ : Type) where
  /-- The header of a block, the newest one for `none`. -/
  headerByNumber : Option Nat → Fiber σ (Except ClientError ExecutionHeader)
  /-- The sync range, `none` when the node is not syncing. -/
  syncProgress : Fiber σ (Except ClientError (Option SyncProgress))
  /-- The bytes of code at an address, at a block or the newest one. -/
  codeAt : Address → Option Nat → Fiber σ (Except ClientError (List Nat))
  /-- The raw results of several calls made in one round trip. -/
  batchRequest : List RpcCall → Fiber σ (Except ClientError (List Json))

/-- The requests made to a beacon node. -/
structure BeaconApi (σ : Type) where
  chainConfig : Fiber σ (Except ClientError ChainConfig)
  beaconHead : Fiber σ (Except ClientError Checkpoints)
  /-- The block proposed at a slot, `none` for a missed slot. -/
  beaconBlock : Nat → Fiber σ (Except ClientError (Option BeaconBlock))
  syncStatus : Fiber σ (Except ClientError BeaconSync)

/-- The instances of a service: a primary, and possibly a fallback. -/
structure Endpoints (α : Type) where
  primary : α
  fallback : Option α

namespace Endpoints

/-- The roles present, in order of precedence. -/
def roles (e : Endpoints α) : List Role :=
  if e.fallback.isSome then [.primary, .fallback] else [.primary]

/-- The instance of a role, if present. -/
def get? (e : Endpoints α) : Role → Option α
  | .primary => some e.primary
  | .fallback => e.fallback

/-- Whether a fallback is present. -/
def hasFallback (e : Endpoints α) : Bool := e.fallback.isSome

/-- Applies `f` to every instance. -/
def map (f : α → β) (e : Endpoints α) : Endpoints β := ⟨f e.primary, e.fallback.map f⟩

/-- Replaces the instance of a role, if present. -/
def set (e : Endpoints α) (role : Role) (a : α) : Endpoints α :=
  match role with
  | .primary => { e with primary := a }
  | .fallback => { e with fallback := e.fallback.map fun _ => a }

end Endpoints

end ChainWatch
