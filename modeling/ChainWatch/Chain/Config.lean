import ChainWatch.Chain.Error

/-!
# Chain configuration

The timing of a beacon chain: its genesis time, the length of a slot in seconds and the number
of slots in an epoch, each a 64-bit unsigned integer. The two lengths are positive in every value
of `ChainConfig`: the type carries the proofs, and `ChainConfig.new?` is the one way to build a
value from numbers, refusing a zero slot length before a zero epoch length.
-/

namespace ChainWatch

/-- The timing configuration of a beacon chain. -/
structure ChainConfig where
  genesisTime : Nat
  secondsPerSlot : Nat
  slotsPerEpoch : Nat
  genesisTime_lt : genesisTime < Nat.pow 2 64
  secondsPerSlot_lt : secondsPerSlot < Nat.pow 2 64
  slotsPerEpoch_lt : slotsPerEpoch < Nat.pow 2 64
  secondsPerSlot_pos : 0 < secondsPerSlot
  slotsPerEpoch_pos : 0 < slotsPerEpoch

namespace ChainConfig

/-- A configuration from three 64-bit values: a zero slot length is refused first, then a zero
epoch length. A value past 64 bits, which no caller passes, is refused as an overflow. -/
def new? (genesisTime secondsPerSlot slotsPerEpoch : Nat) : Except ConfigError ChainConfig :=
  if hs : secondsPerSlot = 0 then .error (.zeroValue "seconds_per_slot")
  else if he : slotsPerEpoch = 0 then .error (.zeroValue "slots_per_epoch")
  else if hb : genesisTime < Nat.pow 2 64 ∧ secondsPerSlot < Nat.pow 2 64 ∧ slotsPerEpoch < Nat.pow 2 64 then
    .ok { genesisTime, secondsPerSlot, slotsPerEpoch
          genesisTime_lt := hb.1, secondsPerSlot_lt := hb.2.1, slotsPerEpoch_lt := hb.2.2
          secondsPerSlot_pos := Nat.pos_of_ne_zero hs, slotsPerEpoch_pos := Nat.pos_of_ne_zero he }
  else .error (.overflow "configuration")

/-- Mainnet: genesis at 1606824023, twelve seconds per slot, 32 slots per epoch. -/
def mainnet : ChainConfig :=
  { genesisTime := 1606824023, secondsPerSlot := 12, slotsPerEpoch := 32
    genesisTime_lt := by decide, secondsPerSlot_lt := by decide, slotsPerEpoch_lt := by decide
    secondsPerSlot_pos := by decide, slotsPerEpoch_pos := by decide }

end ChainConfig

end ChainWatch
