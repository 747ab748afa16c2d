import ChainWatch.Proofs.State.Walk
import ChainWatch.Proofs.State.Build

/-!
# Where a snapshot is anchored

A snapshot is anchored at the slot of its block (`Snapshot.resolvedSlot`), and that block is
the first one the walk from the target slot was given. The walk asks only for slots between the
slot floor and the target (`Manager.resolveBlock_found`), but it reads the slot of the block from
the block, so the anchor lies between them only when the beacon client answers for a slot with a
block of that slot, which is what the block endpoint of a beacon node gives
(`BeaconApi.AnswersAtSlot`); every scripted beacon node does (`ScriptedBeacon.answersAtSlot_api`).

* `Manager.snapshot_block_found_by_walk`: every snapshot a build returns holds the block a beacon
  client of the build answered for a slot between the slot floor and the target, after the slots
  above it were missed; with a client that answers at the slot asked, it is anchored between the
  slot floor and its target slot, and is a substitute exactly when the target slot was missed.
* `snapshot_anchored_above_target`: with a client that answers every slot with the block of a
  later one, a snapshot is anchored above its target.
-/

namespace ChainWatch

open ChainWatch.Fiber

namespace BeaconApi

variable {σ : Type} [VirtualClock σ]

/-- The client answers for a slot only with a block proposed at that slot, as the block endpoint
of a beacon node does. -/
def AnswersAtSlot (api : BeaconApi σ) : Prop :=
  ∀ (w w' : σ) (s : Nat) (b : BeaconBlock), Ends w (api.beaconBlock s) w' (.ok (some b)) → b.slot = s

end BeaconApi

/-- A scripted beacon node gives for a slot the block it knows for that slot. -/
theorem ScriptedBeacon.answersAtSlot_api {σ : Type} [VirtualClock σ] (get : σ → ScriptedBeacon)
    (set : σ → ScriptedBeacon → σ) : (ScriptedBeacon.api get set).AnswersAtSlot := by
  intro w w' s b h
  simp only [ScriptedBeacon.api, ends_read_iff, ends_update_iff, ends_done_iff] at h
  split at h
  · simp at h
  · obtain ⟨-, hb⟩ := h
    have hfound : (get w).blocks.find? (·.slot == s) = some b := Except.ok.inj hb
    simpa using List.find?_some hfound

/-- The beacon nodes of a scenario answer at the slot asked. -/
theorem World.tracker_answersAtSlot (w : World) (config : HealthConfig) (wallClock : Nat)
    (role : Role) (api : BeaconApi World) (h : (w.tracker config wallClock).beacon.get? role = some api) :
    api.AnswersAtSlot := by
  cases role with
  | primary =>
    obtain rfl := Option.some.inj h
    exact ScriptedBeacon.answersAtSlot_api _ _
  | fallback =>
    obtain ⟨_, -, rfl⟩ := Option.map_eq_some_iff.mp h
    exact ScriptedBeacon.answersAtSlot_api _ _

namespace Manager

variable {σ D N : Type} [TrackerWorld σ] (m : Manager σ D N)

/-- **The block a walk finds is the first one its client gave**: the client said that the `k`
slots from `s` down were missed, with `k` no more than the slots above the floor, and then
answered the block for slot `s - k`; `k` is positive exactly when the client said that `s` was
missed. Nothing here ties the slot of the block to the slot asked. -/
theorem resolveBlock_found {api : BeaconApi σ} {s : Nat} {w w' : σ} {b : BeaconBlock}
    (h : Ends w (m.resolveBlock api s) w' (.ok b)) :
    ∃ k w₁, m.config.slotFloor + k ≤ s ∧ api.Misses w (slotsDown s k) w₁ ∧
      Ends w₁ (api.beaconBlock (s - k)) w' (.ok (some b)) ∧
      (0 < k ↔ ∃ w₂, Ends w (api.beaconBlock s) w₂ (.ok none)) := by
  rcases (m.ends_resolveBlock_iff).mp h with ⟨k, w₁, ans, hk, hmiss, hend, hstop⟩ | ⟨-, hr⟩
  · cases hstop with
    | found =>
      refine ⟨k, w₁, hk, hmiss, hend, fun hpos => ?_, fun ⟨w₂, hmissed⟩ => ?_⟩
      · -- the first slot the walk found missed is `s` itself
        obtain ⟨k, rfl⟩ : ∃ k', k = k' + 1 := Nat.exists_eq_add_one.mpr hpos
        rw [slotsDown_succ, BeaconApi.misses_cons_iff] at hmiss
        obtain ⟨w₂, hmissed, -⟩ := hmiss
        exact ⟨w₂, hmissed⟩
      · -- a walk that stopped at once was given a block at `s`, not a miss
        refine Nat.pos_of_ne_zero fun hk0 => ?_
        subst hk0
        obtain rfl := BeaconApi.misses_nil_iff.mp hmiss
        simpa using (Ends.unique hmissed hend).2
  · cases hr

/-- The block a walk finds with a client that answers at the slot asked lies between the floor
and the slot the walk started from, and is at an earlier slot exactly when the client said that
the first slot was missed. -/
theorem resolveBlock_anchored {api : BeaconApi σ} (hapi : api.AnswersAtSlot) {s : Nat}
    {w w' : σ} {b : BeaconBlock} (h : Ends w (m.resolveBlock api s) w' (.ok b)) :
    m.config.slotFloor ≤ b.slot ∧ b.slot ≤ s ∧
      (b.slot ≠ s ↔ ∃ w₁, Ends w (api.beaconBlock s) w₁ (.ok none)) := by
  obtain ⟨k, w₁, hk, -, hend, hpos⟩ := m.resolveBlock_found h
  have hslot : b.slot = s - k := hapi _ _ _ _ hend
  refine ⟨by omega, by omega, ?_⟩
  rw [← hpos]
  omega

/-- Every snapshot a build returns, whether read with `stateAt` or built to be published, holds
the block that a walk from its target slot found with a beacon client of the tracker. -/
theorem snapshot_walked [LawfulClock σ] (tok : CancelToken) (target : BuildTarget)
    (filter : EntityFilter) {w w' : σ} {S : Snapshot D N}
    (h : Ends w (m.stateAt target tok) w' (.ok S) ∨ Ends w (m.buildAndPublish target filter tok) w' (.ok S)) :
    ∃ (role : Role) (beacon : BeaconApi σ) (w₁ w₂ : σ), m.tracker.beacon.get? role = some beacon ∧
      Ends w₁ (m.resolveBlock beacon S.targetSlot) w₂ (.ok S.block) := by
  -- both entries return the snapshot of a whole build
  obtain ⟨filter', w'', hrun⟩ : ∃ filter' w'', m.BuildRun target filter' w w'' S := by
    rcases h with h | h
    · exact ⟨_, _, m.buildRun_of_ends (Ends.of_cancellable h (by simp))⟩
    · obtain ⟨w₁, r, hbuild, hend⟩ := ends_bind_iff.mp h
      obtain ⟨rfl, -⟩ := m.ends_publishIfComplete_ok hend
      exact ⟨_, _, m.buildRun_of_ends (Ends.of_cancellable hbuild (by simp))⟩
  obtain ⟨_, beacon, _, role, _, _, w₃, w₄, _, _, _, _, _, _, hget, _, hwalk, _⟩ := hrun
  exact ⟨role, beacon, w₃, w₄, hget, hwalk⟩

/-- **Where a snapshot is anchored.** Every snapshot a build returns (read at the head, the
finalized or a given slot, or built to be published, for any entities, under any token) holds the
block a beacon client of the tracker answered for slot `S.targetSlot - k`, after it said that the
`k` slots from the target down were missed; that slot is at or above the slot floor, and `k` is
positive exactly when the client said that the target slot was missed. When that client answers
for a slot with a block of that slot, the snapshot is anchored at or above the slot floor and at
or below its target slot, and it is a substitute exactly when the target slot was missed. -/
theorem snapshot_block_found_by_walk [LawfulClock σ] (tok : CancelToken) (target : BuildTarget)
    (filter : EntityFilter) {w w' : σ} {S : Snapshot D N} :
    (Ends w (m.stateAt target tok) w' (.ok S) ∨ Ends w (m.buildAndPublish target filter tok) w' (.ok S)) →
    ∃ (role : Role) (beacon : BeaconApi σ) (w₁ w₂ : σ), m.tracker.beacon.get? role = some beacon ∧
      Ends w₁ (m.resolveBlock beacon S.targetSlot) w₂ (.ok S.block) ∧
      (∃ k w₃, m.config.slotFloor + k ≤ S.targetSlot ∧ beacon.Misses w₁ (slotsDown S.targetSlot k) w₃ ∧
        Ends w₃ (beacon.beaconBlock (S.targetSlot - k)) w₂ (.ok (some S.block)) ∧
        (0 < k ↔ ∃ w₄, Ends w₁ (beacon.beaconBlock S.targetSlot) w₄ (.ok none))) ∧
      (beacon.AnswersAtSlot →
        m.config.slotFloor ≤ S.resolvedSlot ∧ S.resolvedSlot ≤ S.targetSlot ∧
        (S.isSubstituted = true ↔ ∃ w₄, Ends w₁ (beacon.beaconBlock S.targetSlot) w₄ (.ok none))) := by
  intro h
  obtain ⟨role, beacon, w₁, w₂, hget, hwalk⟩ := m.snapshot_walked tok target filter h
  refine ⟨role, beacon, w₁, w₂, hget, hwalk, m.resolveBlock_found hwalk, fun hapi => ?_⟩
  obtain ⟨hfloor, htarget, hsub⟩ := m.resolveBlock_anchored hapi hwalk
  refine ⟨hfloor, htarget, ?_⟩
  simpa [Snapshot.isSubstituted, Snapshot.resolvedSlot] using hsub

end Manager

/-- In the scenario with one block, at slot zero, a snapshot of slot two is anchored at slot
zero: the walk found slots two and one missed. -/
theorem snapshot_anchored_twoMissed :
    let m := World.managerOf (World.oneBlock.tracker {} 0) World.emptyManager
    let S : Snapshot AccountDetails ExecutionHeader :=
      { id := 0, targetSlot := 2, block := ⟨0, 0, some 1000, none⟩, chain := World.secondSlots,
        executionBlock := 1000, network := ⟨1000, 0⟩, details := [] }
    let w' := (run 1000 World.oneBlock (m.stateAt (.slot 2) .never)).1
    (Ends World.oneBlock (m.stateAt (.slot 2) .never) w' (.ok S) ∨
      Ends World.oneBlock (m.buildAndPublish (.slot 2) .all .never) w' (.ok S)) ∧
    ∃ (role : Role) (beacon : BeaconApi World) (w₁ w₂ : World), m.tracker.beacon.get? role = some beacon ∧
      Ends w₁ (m.resolveBlock beacon S.targetSlot) w₂ (.ok S.block) ∧
      (∃ k w₃, m.config.slotFloor + k ≤ S.targetSlot ∧ beacon.Misses w₁ (slotsDown S.targetSlot k) w₃ ∧
        Ends w₃ (beacon.beaconBlock (S.targetSlot - k)) w₂ (.ok (some S.block)) ∧
        (0 < k ↔ ∃ w₄, Ends w₁ (beacon.beaconBlock S.targetSlot) w₄ (.ok none))) ∧
      (beacon.AnswersAtSlot →
        m.config.slotFloor ≤ S.resolvedSlot ∧ S.resolvedSlot ≤ S.targetSlot ∧
        (S.isSubstituted = true ↔ ∃ w₄, Ends w₁ (beacon.beaconBlock S.targetSlot) w₄ (.ok none))) := by
  intro m S w'
  have h : Ends World.oneBlock (m.stateAt (.slot 2) .never) w' (.ok S) :=
    ends_of_run 1000 (by with_unfolding_all rfl)
  exact ⟨Or.inl h, m.snapshot_block_found_by_walk .never (.slot 2) .all (Or.inl h)⟩

/-! ### A client that answers with the block of another slot -/

/-- A world whose nodes answer with their defaults, whose beacon node knows one block, at slot
three with execution block 1000, and which holds a manager of no accounts. -/
def World.blockAtThree : World :=
  { World.start ⟨{}, none⟩ ⟨{ blocks := [⟨3, 0, some 1000, none⟩] }, none⟩ with
    manager := some World.emptyManager }

/-- A beacon client that answers for every slot what `api` answers for slot `s`. -/
def BeaconApi.answeringAt {σ : Type} (api : BeaconApi σ) (s : Nat) : BeaconApi σ :=
  { api with beaconBlock := fun _ => api.beaconBlock s }

/-- **A snapshot is anchored above its target when its client answers with a later block.** The
walk takes the block it is given as found, whatever its slot: with a beacon client that answers
every slot with the block of slot three, a snapshot of slot two is anchored at slot three. -/
theorem snapshot_anchored_above_target :
    let t := World.blockAtThree.tracker {} 0
    let m := World.managerOf { t with beacon := ⟨t.beacon.primary.answeringAt 3, none⟩ } World.emptyManager
    let S : Snapshot AccountDetails ExecutionHeader :=
      { id := 0, targetSlot := 2, block := ⟨3, 0, some 1000, none⟩, chain := World.secondSlots,
        executionBlock := 1000, network := ⟨1000, 0⟩, details := [] }
    Ends World.blockAtThree (m.stateAt (.slot 2) .never)
        (run 1000 World.blockAtThree (m.stateAt (.slot 2) .never)).1 (.ok S) ∧
      S.targetSlot < S.resolvedSlot :=
  ⟨ends_of_run 1000 (by with_unfolding_all rfl), by decide⟩

end ChainWatch
