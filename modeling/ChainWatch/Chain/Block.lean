import ChainWatch.Chain.Address
import ChainWatch.Binary64.Basic

/-!
# Blocks, headers and sync state

The records a node reports:

* `BeaconBlock`: a proposed beacon block, with the number and fee recipient of its execution
  payload when it carries one;
* `Checkpoints`: the finalized and justified epochs of the chain head;
* `BeaconSync`: a beacon node's sync state, and its progress `head / (head + distance)`;
* `ExecutionHeader`: the number and timestamp of an execution block;
* `SyncProgress`: an execution node's sync range, complete once the current block reaches the
  highest, and its fraction done.

Progress values are binary64 numbers computed as the quotient of the two counts, each first
rounded to binary64 (`Binary64.div`).
-/

namespace ChainWatch

/-- A proposed beacon block. -/
structure BeaconBlock where
  slot : Nat
  proposer : Nat
  executionBlock : Option Nat
  feeRecipient : Option Address
  deriving DecidableEq, Inhabited

/-- Whether the block carries an execution payload. -/
def BeaconBlock.hasExecutionPayload (b : BeaconBlock) : Bool := b.executionBlock.isSome

/-- The finalized and justified epochs of the chain head. -/
structure Checkpoints where
  finalizedEpoch : Nat
  justifiedEpoch : Nat
  previousJustifiedEpoch : Nat
  deriving DecidableEq, Inhabited

/-- A beacon node's sync state. -/
structure BeaconSync where
  syncing : Bool
  headSlot : Nat
  syncDistance : Nat
  deriving DecidableEq, Inhabited

/-- Progress of a beacon node: its head slot over the slot it is syncing to, that target
saturating at `2 ^ 64 - 1`; zero when the target is zero. -/
def BeaconSync.progress (s : BeaconSync) : Binary64 :=
  let target := min (s.headSlot + s.syncDistance) (Nat.pow 2 64 - 1)
  if target = 0 then Binary64.zero else Binary64.div (Binary64.ofNat s.headSlot) (Binary64.ofNat target)

/-- The number and timestamp of an execution block. -/
structure ExecutionHeader where
  number : Nat
  timestamp : Nat
  deriving DecidableEq, Inhabited

/-- An execution node's sync range. -/
structure SyncProgress where
  startingBlock : Nat
  currentBlock : Nat
  highestBlock : Nat
  deriving DecidableEq, Inhabited

namespace SyncProgress

/-- Whether the current block has reached the highest one. -/
def isComplete (p : SyncProgress) : Bool := p.highestBlock ≤ p.currentBlock

/-- The fraction of the range done: one when complete, zero for an empty range, otherwise the
blocks done over the blocks in the range, at most one. -/
def fraction (p : SyncProgress) : Binary64 :=
  if p.isComplete then Binary64.one
  else
    let total := p.highestBlock - p.startingBlock
    if total = 0 then Binary64.zero
    else
      let done := p.currentBlock - p.startingBlock
      Binary64.min (Binary64.div (Binary64.ofNat done) (Binary64.ofNat total)) Binary64.one

end SyncProgress

end ChainWatch
