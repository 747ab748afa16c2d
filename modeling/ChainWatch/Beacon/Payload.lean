import ChainWatch.Chain.Codec
import ChainWatch.Wire.QuotedInt

/-!
# Payloads of a beacon node

A beacon node wraps every payload in a `data` member (`dataDecoder`) and writes every integer as
a decimal string (`Decoder.quotedU64`). The payloads read here are the genesis time, the timing
parameters of the chain (`ChainSpec`, not yet checked: zero is accepted here and refused when a
configuration is built), the finality checkpoints of the head state, a signed block (whose
execution payload is absent before the merge) and the node's sync state. Each is read into the
chain record it stands for.
-/

namespace ChainWatch

/-- The timing parameters a beacon node reports, before they are checked. -/
structure ChainSpec where
  secondsPerSlot : Nat
  slotsPerEpoch : Nat
  deriving DecidableEq

/-- The JSON form of the timing parameters. -/
def ChainSpec.toJson (s : ChainSpec) : Json :=
  .obj [("seconds_per_slot", .nat s.secondsPerSlot), ("slots_per_epoch", .nat s.slotsPerEpoch)]

namespace BeaconPayload

/-- Reads the payload in the `data` member of a reply. -/
def dataDecoder (d : Decoder α) : Decoder α := fun j => do
  let ms ← readRecord "DataResponse" [.of "data" .required d] j
  fieldOf ms "data" d

/-- Reads the genesis time. -/
def genesis : Decoder Nat := fun j => do
  let ms ← readRecord "Genesis" [.of "genesis_time" .required Decoder.quotedU64] j
  fieldOf ms "genesis_time" Decoder.quotedU64

/-- Reads the timing parameters. -/
def spec : Decoder ChainSpec := fun j => do
  let ms ← readRecord "Spec"
    [.of "SECONDS_PER_SLOT" .required Decoder.quotedU64,
     .of "SLOTS_PER_EPOCH" .required Decoder.quotedU64] j
  pure { secondsPerSlot := ← fieldOf ms "SECONDS_PER_SLOT" Decoder.quotedU64
         slotsPerEpoch := ← fieldOf ms "SLOTS_PER_EPOCH" Decoder.quotedU64 }

/-- Reads the epoch of a checkpoint. -/
def checkpoint : Decoder Nat := fun j => do
  let ms ← readRecord "Checkpoint" [.of "epoch" .required Decoder.quotedU64] j
  fieldOf ms "epoch" Decoder.quotedU64

/-- Reads the finality checkpoints of a state. -/
def finalityCheckpoints : Decoder Checkpoints := fun j => do
  let ms ← readRecord "FinalityCheckpoints"
    [.of "previous_justified" .required checkpoint, .of "current_justified" .required checkpoint,
     .of "finalized" .required checkpoint] j
  pure { finalizedEpoch := ← fieldOf ms "finalized" checkpoint
         justifiedEpoch := ← fieldOf ms "current_justified" checkpoint
         previousJustifiedEpoch := ← fieldOf ms "previous_justified" checkpoint }

/-- Reads an execution payload: its block number and fee recipient. -/
def executionPayload : Decoder (Nat × Address) := fun j => do
  let ms ← readRecord "ExecutionPayload"
    [.of "block_number" .required Decoder.quotedU64, .of "fee_recipient" .required Address.decoder] j
  pure (← fieldOf ms "block_number" Decoder.quotedU64, ← fieldOf ms "fee_recipient" Address.decoder)

/-- Reads a block body: its execution payload, if any. -/
def blockBody : Decoder (Option (Nat × Address)) := fun j => do
  let ms ← readRecord "BlockBody"
    [.of "execution_payload" .defaulted (Decoder.option executionPayload)] j
  fieldOf ms "execution_payload" (Decoder.option executionPayload)

/-- Reads the message of a signed block as a block. -/
def blockMessage : Decoder BeaconBlock := fun j => do
  let ms ← readRecord "BlockMessage"
    [.of "slot" .required Decoder.quotedU64, .of "proposer_index" .required Decoder.quotedU64,
     .of "body" .required blockBody] j
  let payload ← fieldOf ms "body" blockBody
  pure { slot := ← fieldOf ms "slot" Decoder.quotedU64
         proposer := ← fieldOf ms "proposer_index" Decoder.quotedU64
         executionBlock := payload.map (·.1)
         feeRecipient := payload.map (·.2) }

/-- Reads a signed block. -/
def signedBlock : Decoder BeaconBlock := fun j => do
  let ms ← readRecord "SignedBlock" [.of "message" .required blockMessage] j
  fieldOf ms "message" blockMessage

/-- Reads the sync state of a node. -/
def syncing : Decoder BeaconSync := fun j => do
  let ms ← readRecord "Syncing"
    [.of "head_slot" .required Decoder.quotedU64, .of "sync_distance" .required Decoder.quotedU64,
     .of "is_syncing" .required Decoder.bool] j
  pure { syncing := ← fieldOf ms "is_syncing" Decoder.bool
         headSlot := ← fieldOf ms "head_slot" Decoder.quotedU64
         syncDistance := ← fieldOf ms "sync_distance" Decoder.quotedU64 }

end BeaconPayload

end ChainWatch
