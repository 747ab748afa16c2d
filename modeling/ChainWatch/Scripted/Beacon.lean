import ChainWatch.Scripted.Script
import ChainWatch.Client.Api

/-!
# A scripted beacon node

A scripted beacon node answers from what it was told, at once, and counts what it is asked:
its sync state comes from a script, its configuration and head checkpoints are fixed (or fail
with a given text), and the block at a slot is the one it knows for that slot, if any, unless
requests for that slot fail. A configuration is checked when it is read: a zero length is a
failed response.
-/

namespace ChainWatch

/-- The state of a scripted beacon node: what it answers and what it was asked. -/
structure ScriptedBeacon where
  syncScript : Script (Except String BeaconSync) := [.ok ⟨false, 0, 0⟩]
  /-- Sync requests from this number on never complete. -/
  hangAfter : Option Nat := none
  /-- Genesis time, seconds per slot and slots per epoch, or a failure text. -/
  config : Except String (Nat × Nat × Nat) := .ok (1606824023, 12, 32)
  head : Except String Checkpoints := .ok ⟨0, 0, 0⟩
  blocks : List BeaconBlock := []
  /-- Slots whose requests fail. -/
  blockErrors : List Nat := []
  syncCalls : Nat := 0
  headCalls : Nat := 0
  configCalls : Nat := 0
  /-- The slots asked for, in order. -/
  requested : List Nat := []
  deriving Inhabited

namespace ScriptedBeacon

/-- The block a scripted node knows for a slot. -/
def blockAt (n : ScriptedBeacon) (slot : Nat) : Option BeaconBlock := n.blocks.find? (·.slot == slot)

/-- Adds a block, replacing the one known for its slot. -/
def addBlock (n : ScriptedBeacon) (b : BeaconBlock) : ScriptedBeacon :=
  { n with blocks := n.blocks.filter (·.slot != b.slot) ++ [b] }

/-- Forgets the block of a slot. -/
def removeBlock (n : ScriptedBeacon) (slot : Nat) : ScriptedBeacon :=
  { n with blocks := n.blocks.filter (·.slot != slot) }

/-- The endpoint of the configuration. -/
def specEndpoint : String := "/eth/v1/config/spec"

/-- The requests of a scripted beacon node that `get` and `set` reach in the world. -/
def api [VirtualClock σ] (get : σ → ScriptedBeacon) (set : σ → ScriptedBeacon → σ) : BeaconApi σ where
  syncStatus := .read fun w =>
    let n := get w
    let (entry, rest) := Script.next n.syncScript
    if hangsAt n.hangAfter n.syncCalls then
      .update (fun w => set w { get w with syncCalls := (get w).syncCalls + 1 }) Fiber.hang
    else
      .update (fun w => set w { get w with syncCalls := (get w).syncCalls + 1, syncScript := rest })
        (.done (match entry with
          | some (.ok s) => .ok s
          | some (.error text) => .error (.request "/eth/v1/node/syncing" text)
          | none => .error (.request "/eth/v1/node/syncing" "empty script")))
  chainConfig := .read fun w =>
    let n := get w
    .update (fun w => set w { get w with configCalls := (get w).configCalls + 1 })
      (.done (match n.config with
        | .error text => .error (.request specEndpoint text)
        | .ok (g, s, e) => (ChainConfig.new? g s e).mapError fun err => .response specEndpoint err.message))
  beaconHead := .read fun w =>
    let n := get w
    .update (fun w => set w { get w with headCalls := (get w).headCalls + 1 })
      (.done (n.head.mapError (.request "/eth/v1/beacon/states/head/finality_checkpoints")))
  beaconBlock slot := .read fun w =>
    let n := get w
    .update (fun w => set w { get w with requested := (get w).requested ++ [slot] })
      (.done (if n.blockErrors.contains slot then
          .error (.request ("/eth/v2/beacon/blocks/" ++ Nat.repr slot) "block unavailable")
        else .ok (n.blockAt slot)))

end ScriptedBeacon

end ChainWatch
