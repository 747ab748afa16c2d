import ChainWatch.Chain.Error

/-!
# Settings of snapshot builds

`StateConfig` holds how many entities one round trip reads, how many round trips may be in
flight at once, and the lowest slot the search for a block goes down to. `StateConfig.new?`
refuses a zero batch size first, then a zero number of concurrent batches.
-/

namespace ChainWatch

/-- The settings of snapshot builds. -/
structure StateConfig where
  batchSize : Nat
  maxConcurrentBatches : Nat
  slotFloor : Nat
  batchSize_pos : 0 < batchSize
  maxConcurrentBatches_pos : 0 < maxConcurrentBatches

namespace StateConfig

/-- Settings from their three values, refusing a zero batch size, then zero concurrency. -/
def new? (batchSize maxConcurrentBatches slotFloor : Nat) : Except ConfigError StateConfig :=
  if hb : batchSize = 0 then .error (.zeroValue "batch_size")
  else if hm : maxConcurrentBatches = 0 then .error (.zeroValue "max_concurrent_batches")
  else .ok { batchSize, maxConcurrentBatches, slotFloor,
             batchSize_pos := Nat.pos_of_ne_zero hb,
             maxConcurrentBatches_pos := Nat.pos_of_ne_zero hm }

/-- The default settings: batches of 100, six in flight, down to slot 0. -/
def default : StateConfig :=
  { batchSize := 100, maxConcurrentBatches := 6, slotFloor := 0,
    batchSize_pos := by decide, maxConcurrentBatches_pos := by decide }

instance : Inhabited StateConfig := ⟨default⟩

end StateConfig

end ChainWatch
