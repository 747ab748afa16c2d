import ChainWatch.Chain.Config

/-!
# Slots, epochs and time

The arithmetic of the beacon clock over 64-bit unsigned integers, each overflow an error:

* `ChainConfig.slotAt`: the slot in progress at a Unix time, an error before genesis;
* `ChainConfig.slotStart`: the Unix time a slot starts, `slot * secondsPerSlot + genesisTime`;
* `ChainConfig.lastSlotOfEpoch`: the last slot of an epoch, `epoch * n + n - 1` for `n` slots
  per epoch;
* `ChainConfig.epochOf`: the epoch of a slot;
* `isRecent`: whether a block time is within a threshold of now, in whole seconds.
-/

namespace ChainWatch

namespace ChainConfig

/-- The slot in progress at Unix time `t`: whole slots since genesis. -/
def slotAt (c : ChainConfig) (t : Nat) : Except ConfigError Nat :=
  if t < c.genesisTime then .error (.clockSkew t c.genesisTime)
  else .ok ((t - c.genesisTime) / c.secondsPerSlot)

/-- The Unix time at which a slot starts, when it fits 64 bits. -/
def slotStart (c : ChainConfig) (slot : Nat) : Except ConfigError Nat :=
  let offset := slot * c.secondsPerSlot
  if offset < Nat.pow 2 64 ∧ offset + c.genesisTime < Nat.pow 2 64 then .ok (offset + c.genesisTime)
  else .error (.overflow "slot start time")

/-- The last slot of an epoch, when it fits 64 bits. -/
def lastSlotOfEpoch (c : ChainConfig) (epoch : Nat) : Except ConfigError Nat :=
  let first := epoch * c.slotsPerEpoch
  if first < Nat.pow 2 64 ∧ first + (c.slotsPerEpoch - 1) < Nat.pow 2 64 then .ok (first + (c.slotsPerEpoch - 1))
  else .error (.overflow "finalized slot for epoch")

/-- The epoch a slot belongs to. -/
def epochOf (c : ChainConfig) (slot : Nat) : Nat := slot / c.slotsPerEpoch

end ChainConfig

/-- Whether a block made at `blockTime` is recent at `now`: its age, zero for a block from the
future, is below the threshold counted in whole seconds. -/
def isRecent (blockTime now thresholdMs : Nat) : Bool :=
  now - blockTime < thresholdMs / 1000

end ChainWatch
