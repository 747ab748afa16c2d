import ChainWatch.Chain.Time
import ChainWatch.Chain.Block

/-!
# Snapshots of the network

A snapshot is the state of the network at one beacon block: the slot it was asked for, the
block found at or below it, the chain configuration, the execution block every detail was read
at, the details of the network as a whole and those of each entity, in the order the entities
were listed. It is anchored at its block's slot (`Snapshot.resolvedSlot`), which is a
substitute when the slot asked for was missed (`Snapshot.isSubstituted`).

Each snapshot carries an identity (`Snapshot.id`), told apart from every other build, so that
whether the snapshot a build returned is the one published can be asked.
-/

namespace ChainWatch

/-- The state of the network at one beacon block; `D` are the details of an entity and `N`
those of the network. -/
structure Snapshot (D N : Type) where
  /-- Tells this build apart from every other. -/
  id : Nat
  targetSlot : Nat
  block : BeaconBlock
  chain : ChainConfig
  executionBlock : Nat
  network : N
  details : List (Address × D)

namespace Snapshot

/-- The slot of the block the snapshot is anchored at. -/
def resolvedSlot (s : Snapshot D N) : Nat := s.block.slot

/-- Whether the slot asked for was missed and an earlier block is used. -/
def isSubstituted (s : Snapshot D N) : Bool := s.resolvedSlot != s.targetSlot

/-- The details of an entity, if the snapshot has them. -/
def entity? (s : Snapshot D N) (a : Address) : Option D := s.details.lookup a

/-- The start time of the anchoring slot. -/
def slotTime (s : Snapshot D N) : Except ConfigError Nat := s.chain.slotStart s.resolvedSlot

end Snapshot

/-- Which entities a build reads. -/
inductive EntityFilter where
  /-- Every entity known at the snapshot's block. -/
  | all
  /-- One entity, with the details of the network. -/
  | single (a : Address)
  deriving DecidableEq

/-- The slot a build aims at. -/
inductive BuildTarget where
  /-- The slot of the newest execution block. -/
  | head
  /-- The last slot of the finalized epoch. -/
  | finalized
  | slot (n : Nat)
  deriving DecidableEq

end ChainWatch
