import ChainWatch.Chain.Config
import ChainWatch.Chain.Block
import ChainWatch.Wire.Quantity

/-!
# Chain records as JSON

Each record of the chain has a JSON form, an object with one member per field (`toJson`), read
back by its decoder (`decoder`). Integers are JSON numbers, absent options are `null`, and an
address is its text. A chain configuration is decoded as three integers (`ChainConfig.rawDecoder`)
and then built by `ChainConfig.new?`, so a zero length is refused with that function's error
text.

`summary` adds the derived fields a report shows: whether a block carries an execution payload,
the progress of a sync state.
-/

namespace ChainWatch

/-- The JSON of an optional value. -/
def Json.ofOption (f : α → Json) : Option α → Json
  | some a => f a
  | none => .null

/-- An address as JSON. -/
def Address.toJson (a : Address) : Json := .str a.toText

/-- An address field: twenty bytes in hexadecimal. -/
def Address.decoder : Decoder Address := fun j => (Decoder.hash 20 j).map Address.ofNat

namespace ChainConfig

/-- The JSON form of a configuration. -/
def toJson (c : ChainConfig) : Json :=
  .obj [("genesis_time", .nat c.genesisTime), ("seconds_per_slot", .nat c.secondsPerSlot),
    ("slots_per_epoch", .nat c.slotsPerEpoch)]

/-- Reads the three integers of a configuration, unchecked: genesis time, seconds per slot and
slots per epoch. -/
def rawDecoder : Decoder (Nat × Nat × Nat) := fun j => do
  let ms ← readRecord "RawBeaconConfig"
    [.of "genesis_time" .required Decoder.u64, .of "seconds_per_slot" .required Decoder.u64,
     .of "slots_per_epoch" .required Decoder.u64] j
  let g ← fieldOf ms "genesis_time" Decoder.u64
  let s ← fieldOf ms "seconds_per_slot" Decoder.u64
  let e ← fieldOf ms "slots_per_epoch" Decoder.u64
  pure (g, s, e)

/-- Reads three integers, then builds the configuration, a refusal giving its text. -/
def decoder : Decoder ChainConfig := fun j => do
  let (g, s, e) ← rawDecoder j
  match new? g s e with
  | .ok c => pure c
  | .error err => throw (.custom err.message)

end ChainConfig

namespace BeaconBlock

/-- The JSON form of a block. -/
def toJson (b : BeaconBlock) : Json :=
  .obj [("slot", .nat b.slot), ("proposer_index", .nat b.proposer),
    ("execution_block_number", Json.ofOption .nat b.executionBlock),
    ("fee_recipient", Json.ofOption Address.toJson b.feeRecipient)]

/-- The JSON form with whether the block carries an execution payload. -/
def summary (b : BeaconBlock) : Json :=
  .obj [("slot", .nat b.slot), ("proposer_index", .nat b.proposer),
    ("execution_block_number", Json.ofOption .nat b.executionBlock),
    ("fee_recipient", Json.ofOption Address.toJson b.feeRecipient),
    ("has_execution_payload", .bool b.hasExecutionPayload)]

/-- Reads a block from its JSON form. -/
def decoder : Decoder BeaconBlock := fun j => do
  let ms ← readRecord "BeaconBlock"
    [.of "slot" .required Decoder.u64, .of "proposer_index" .required Decoder.u64,
     .of "execution_block_number" .optionalField (Decoder.option Decoder.u64),
     .of "fee_recipient" .optionalField (Decoder.option Address.decoder)] j
  pure { slot := ← fieldOf ms "slot" Decoder.u64
         proposer := ← fieldOf ms "proposer_index" Decoder.u64
         executionBlock := ← fieldOf ms "execution_block_number" (Decoder.option Decoder.u64)
         feeRecipient := ← fieldOf ms "fee_recipient" (Decoder.option Address.decoder) }

end BeaconBlock

namespace Checkpoints

/-- The JSON form of head checkpoints. -/
def toJson (c : Checkpoints) : Json :=
  .obj [("finalized_epoch", .nat c.finalizedEpoch), ("justified_epoch", .nat c.justifiedEpoch),
    ("previous_justified_epoch", .nat c.previousJustifiedEpoch)]

/-- Reads head checkpoints from their JSON form. -/
def decoder : Decoder Checkpoints := fun j => do
  let ms ← readRecord "BeaconHead"
    [.of "finalized_epoch" .required Decoder.u64, .of "justified_epoch" .required Decoder.u64,
     .of "previous_justified_epoch" .required Decoder.u64] j
  pure { finalizedEpoch := ← fieldOf ms "finalized_epoch" Decoder.u64
         justifiedEpoch := ← fieldOf ms "justified_epoch" Decoder.u64
         previousJustifiedEpoch := ← fieldOf ms "previous_justified_epoch" Decoder.u64 }

end Checkpoints

namespace BeaconSync

/-- The JSON form of a sync state. -/
def toJson (s : BeaconSync) : Json :=
  .obj [("syncing", .bool s.syncing), ("head_slot", .nat s.headSlot),
    ("sync_distance", .nat s.syncDistance)]

/-- The JSON form with the progress. -/
def summary (s : BeaconSync) : Json :=
  .obj [("syncing", .bool s.syncing), ("head_slot", .nat s.headSlot),
    ("sync_distance", .nat s.syncDistance), ("progress", .float s.progress)]

/-- Reads a sync state from its JSON form. -/
def decoder : Decoder BeaconSync := fun j => do
  let ms ← readRecord "BeaconSyncStatus"
    [.of "syncing" .required Decoder.bool, .of "head_slot" .required Decoder.u64,
     .of "sync_distance" .required Decoder.u64] j
  pure { syncing := ← fieldOf ms "syncing" Decoder.bool
         headSlot := ← fieldOf ms "head_slot" Decoder.u64
         syncDistance := ← fieldOf ms "sync_distance" Decoder.u64 }

end BeaconSync

namespace ExecutionHeader

/-- The JSON form of a header. -/
def toJson (h : ExecutionHeader) : Json :=
  .obj [("number", .nat h.number), ("timestamp", .nat h.timestamp)]

/-- Reads a header from its JSON form. -/
def decoder : Decoder ExecutionHeader := fun j => do
  let ms ← readRecord "ExecutionHeader"
    [.of "number" .required Decoder.u64, .of "timestamp" .required Decoder.u64] j
  pure { number := ← fieldOf ms "number" Decoder.u64
         timestamp := ← fieldOf ms "timestamp" Decoder.u64 }

end ExecutionHeader

namespace SyncProgress

/-- The JSON form of a sync range. -/
def toJson (p : SyncProgress) : Json :=
  .obj [("starting_block", .nat p.startingBlock), ("current_block", .nat p.currentBlock),
    ("highest_block", .nat p.highestBlock)]

/-- The JSON form with the fraction done and completeness. -/
def summary (p : SyncProgress) : Json :=
  .obj [("starting_block", .nat p.startingBlock), ("current_block", .nat p.currentBlock),
    ("highest_block", .nat p.highestBlock), ("fraction", .float p.fraction),
    ("is_complete", .bool p.isComplete)]

/-- Reads a sync range from its JSON form. -/
def decoder : Decoder SyncProgress := fun j => do
  let ms ← readRecord "SyncProgress"
    [.of "starting_block" .required Decoder.u64, .of "current_block" .required Decoder.u64,
     .of "highest_block" .required Decoder.u64] j
  pure { startingBlock := ← fieldOf ms "starting_block" Decoder.u64
         currentBlock := ← fieldOf ms "current_block" Decoder.u64
         highestBlock := ← fieldOf ms "highest_block" Decoder.u64 }

end SyncProgress

end ChainWatch
