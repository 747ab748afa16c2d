import ChainWatch.Proofs.Fiber.Token
import ChainWatch.Proofs.Scenario.Laws

/-!
# What a successful build read

A build takes its clients once, the execution client first and the beacon client second, each
through one evaluation of the tracker, and every later read of the build goes through those two
clients: the target slot, the walk back to a block, the list of entities, the details of the
network and those of the entities, all at the execution block of the block found.

* `Manager.BuildRun` lays out such a run part by part: the two evaluations, the read of the
  target slot, the walk, the entities, the details, and the identity drawn for the snapshot.
* `Manager.buildRun_of_ends`: every build that returns a snapshot ran that way, so the snapshot's
  target slot is the one read through the chosen clients, its block is the one the walk from that
  slot found, and its execution block is that block's payload.
* `Manager.snapshot_reads_consistent` states this for every operation that builds a snapshot,
  published or not, under any cancellation token, and adds that a walk ending at a block without
  a payload fails the build.
-/

namespace ChainWatch

open ChainWatch.Fiber

theorem Except.mapError_eq_ok {ε ε' α : Type} {f : ε → ε'} {x : Except ε α} {a : α} :
    x.mapError f = .ok a ↔ x = .ok a := by
  cases x with
  | error e => constructor <;> intro h <;> cases h
  | ok b => constructor <;> intro h <;> cases h <;> rfl

variable {σ D N α : Type}

/-! ### Choosing a ready instance -/

/-- The role a tracker hands out is the one its evaluation found ready. -/
theorem Tracker.ends_readyRole_ok [TrackerWorld σ] (t : Tracker σ) {kind : ServiceKind}
    {w w' : σ} {r : Role} :
    Ends w (t.readyRole kind) w' (.ok r) ↔ Ends w (t.evaluate kind) w' (.ok (.ready r)) := by
  constructor
  · intro h
    obtain ⟨w₁, sel, h₁, h₂⟩ := ends_bind_iff.mp h
    rcases sel with e | ⟨r'⟩ | ⟨r'⟩
    · simp at h₂
    · simp only [ends_done_iff, Except.ok.injEq] at h₂
      obtain ⟨rfl, rfl⟩ := h₂
      exact h₁
    · simp at h₂
  · intro h
    exact ends_bind_iff.mpr ⟨w', _, h, by simp⟩

/-- A cancellable fiber that ends with anything but a cancellation ran as it would alone. -/
theorem Ends.of_cancellable [VirtualClock σ] [LawfulClock σ] {tok : CancelToken}
    {p : Fiber σ (Except StateError α)} {w w' : σ} {r : Except StateError α}
    (h : Ends w (cancellable tok p) w' r) (hr : r ≠ .error .cancelled) : Ends w p w' r := by
  obtain ⟨w₁, x, hrace, hend⟩ := ends_bind_iff.mp h
  rcases x with ⟨⟩ | r'
  · simp only [ends_done_iff] at hend
    exact absurd hend.2.symm hr
  · simp only [ends_done_iff] at hend
    obtain ⟨rfl, rfl⟩ := hend
    exact Ends.of_race_cancelled tok hrace

namespace Manager

variable [TrackerWorld σ] (m : Manager σ D N)

theorem ends_readyExecution_ok {w w' : σ} {exec : ExecutionApi σ} :
    Ends w m.readyExecution w' (.ok exec) ↔
      ∃ re, Ends w (m.tracker.evaluate .execution) w' (.ok (.ready re)) ∧
        m.tracker.execution.get? re = some exec := by
  constructor
  · intro h
    obtain ⟨w₁, r, h₁, h₂⟩ := ends_bind_iff.mp h
    rcases r with e | re
    · simp at h₂
    · cases hget : m.tracker.execution.get? re with
      | none => simp [hget] at h₂
      | some api =>
        simp only [hget, ends_done_iff, Except.ok.injEq] at h₂
        obtain ⟨rfl, rfl⟩ := h₂
        exact ⟨re, m.tracker.ends_readyRole_ok.mp h₁, hget⟩
  · rintro ⟨re, he, hget⟩
    exact ends_bind_iff.mpr ⟨w', .ok re, m.tracker.ends_readyRole_ok.mpr he, by simp [hget]⟩

theorem ends_readyBeacon_ok {w w' : σ} {beacon : BeaconApi σ} :
    Ends w m.readyBeacon w' (.ok beacon) ↔
      ∃ rb, Ends w (m.tracker.evaluate .beacon) w' (.ok (.ready rb)) ∧
        m.tracker.beacon.get? rb = some beacon := by
  constructor
  · intro h
    obtain ⟨w₁, r, h₁, h₂⟩ := ends_bind_iff.mp h
    rcases r with e | rb
    · simp at h₂
    · cases hget : m.tracker.beacon.get? rb with
      | none => simp [hget] at h₂
      | some api =>
        simp only [hget, ends_done_iff, Except.ok.injEq] at h₂
        obtain ⟨rfl, rfl⟩ := h₂
        exact ⟨rb, m.tracker.ends_readyRole_ok.mp h₁, hget⟩
  · rintro ⟨rb, he, hget⟩
    exact ends_bind_iff.mpr ⟨w', .ok rb, m.tracker.ends_readyRole_ok.mpr he, by simp [hget]⟩

/-! ### The reads of a build -/

/-- How a build finds its target slot, from the world `w` to `w'`: the slot of the newest
execution header read through the execution client, the last slot of the finalized epoch read
through the beacon client, or the slot it was given. -/
def TargetRead (exec : ExecutionApi σ) (beacon : BeaconApi σ) : BuildTarget → σ → σ → Nat → Prop
  | .head, w, w', s => ∃ h, Ends w (exec.headerByNumber none) w' (.ok h) ∧
      m.chain.slotAt h.timestamp = .ok s
  | .finalized, w, w', s => ∃ c, Ends w beacon.beaconHead w' (.ok c) ∧
      m.chain.lastSlotOfEpoch c.finalizedEpoch = .ok s
  | .slot n, w, w', s => w' = w ∧ s = n

/-- The entities a build reads at execution block `n`, from `w` to `w'`: those the fetcher lists
there through the execution client, or the one asked for. -/
def EntitiesRead (exec : ExecutionApi σ) (n : Nat) : EntityFilter → σ → σ → List Address → Prop
  | .all, w, w', as => Ends w (m.fetcher.entityAddresses exec n) w' (.ok as)
  | .single a, w, w', as => w' = w ∧ as = [a]

theorem ends_targetSlotWith_ok {exec : ExecutionApi σ} {beacon : BeaconApi σ}
    {target : BuildTarget} {w w' : σ} {s : Nat} :
    Ends w (m.targetSlotWith exec beacon target) w' (.ok s) ↔
      m.TargetRead exec beacon target w w' s := by
  cases target with
  | head =>
    simp only [targetSlotWith, headSlotWith, TargetRead, ends_bind_iff]
    constructor
    · rintro ⟨w₁, r, h₁, h₂⟩
      rcases r with e | h
      · simp at h₂
      · simp only [ends_done_iff, Except.mapError_eq_ok] at h₂
        obtain ⟨rfl, hs⟩ := h₂
        exact ⟨h, h₁, hs⟩
    · rintro ⟨h, h₁, hs⟩
      exact ⟨w', .ok h, h₁, by simp [hs, Except.mapError_eq_ok]⟩
  | finalized =>
    simp only [targetSlotWith, finalizedSlotWith, TargetRead, ends_bind_iff]
    constructor
    · rintro ⟨w₁, r, h₁, h₂⟩
      rcases r with e | c
      · simp at h₂
      · simp only [ends_done_iff, Except.mapError_eq_ok] at h₂
        obtain ⟨rfl, hs⟩ := h₂
        exact ⟨c, h₁, hs⟩
    · rintro ⟨c, h₁, hs⟩
      exact ⟨w', .ok c, h₁, by simp [hs, Except.mapError_eq_ok]⟩
  | slot n =>
    simp only [targetSlotWith, TargetRead, ends_done_iff, Except.ok.injEq]
    exact and_congr_right fun _ => eq_comm

theorem ends_entitiesAt_ok {exec : ExecutionApi σ} {n : Nat} {filter : EntityFilter} {w w' : σ}
    {as : List Address} :
    Ends w (m.entitiesAt exec n filter) w' (.ok as) ↔ m.EntitiesRead exec n filter w w' as := by
  cases filter with
  | all =>
    simp only [entitiesAt, EntitiesRead, ends_bind_iff]
    constructor
    · rintro ⟨w₁, r, h₁, h₂⟩
      rcases r with e | as'
      · simp at h₂
      · simp only [ends_done_iff, Except.ok.injEq] at h₂
        obtain ⟨rfl, rfl⟩ := h₂
        exact h₁
    · intro h
      exact ⟨w', .ok as, h, by simp⟩
  | single a =>
    simp only [entitiesAt, EntitiesRead, ends_done_iff, Except.ok.injEq]
    exact and_congr_right fun _ => eq_comm

/-- A walk that ends at a block without an execution payload fails the assembly there. -/
theorem ends_assemble_missingPayload {exec : ExecutionApi σ} {beacon : BeaconApi σ} {s : Nat}
    {filter : EntityFilter} {w w' : σ} {b : BeaconBlock}
    (hwalk : Ends w (m.resolveBlock beacon s) w' (.ok b)) (hb : b.executionBlock = none) :
    Ends w (m.assemble exec beacon s filter) w' (.error (.missingExecutionPayload b.slot)) :=
  ends_bind_iff.mpr ⟨w', .ok b, hwalk, by simp [hb]⟩

/-! ### A successful build -/

/-- How a successful build of `target` and `filter` ran from `w` to `w'` and made `S`. One
evaluation of each service gave a ready execution client `exec` and a ready beacon client
`beacon`, in that order, and every later read went through those two: the target slot, the walk
from it to the block of `S` (whose payload is the execution block of `S`), the entities and all
the details at that execution block. Last, an identity was drawn for `S`. -/
inductive BuildRun (target : BuildTarget) (filter : EntityFilter) (w w' : σ) (S : Snapshot D N) :
    Prop
  | intro (exec : ExecutionApi σ) (beacon : BeaconApi σ) (re rb : Role) (w₁ w₂ w₃ w₄ w₅ w₆ : σ)
      (entities : List Address)
      (pickExecution : Ends w (m.tracker.evaluate .execution) w₁ (.ok (.ready re)))
      (execution_ready : m.tracker.execution.get? re = some exec)
      (pickBeacon : Ends w₁ (m.tracker.evaluate .beacon) w₂ (.ok (.ready rb)))
      (beacon_ready : m.tracker.beacon.get? rb = some beacon)
      (targetRead : m.TargetRead exec beacon target w₂ w₃ S.targetSlot)
      (walk : Ends w₃ (m.resolveBlock beacon S.targetSlot) w₄ (.ok S.block))
      (payload : S.block.executionBlock = some S.executionBlock)
      (entitiesRead : m.EntitiesRead exec S.executionBlock filter w₄ w₅ entities)
      (detailsRead : Ends w₅ (bothOrFail (m.networkAt exec S.executionBlock)
        (m.fetcher.fetchInBatches exec S.executionBlock entities m.config.batchSize
          m.config.maxConcurrentBatches)) w₆ (.ok (S.network, S.details)))
      (identity : Ends w₆ m.freshId w' S.id)
      (chain : S.chain = m.chain)

/-- An assembly that returns a snapshot walked to its block, read its entities and details at
that block's payload, and drew its identity. -/
theorem assemble_ok_of_ends {exec : ExecutionApi σ} {beacon : BeaconApi σ} {s : Nat}
    {filter : EntityFilter} {w w' : σ} {S : Snapshot D N}
    (h : Ends w (m.assemble exec beacon s filter) w' (.ok S)) :
    S.targetSlot = s ∧ S.chain = m.chain ∧ ∃ w₁ w₂ w₃ entities,
      Ends w (m.resolveBlock beacon s) w₁ (.ok S.block) ∧
      S.block.executionBlock = some S.executionBlock ∧
      m.EntitiesRead exec S.executionBlock filter w₁ w₂ entities ∧
      Ends w₂ (bothOrFail (m.networkAt exec S.executionBlock)
        (m.fetcher.fetchInBatches exec S.executionBlock entities m.config.batchSize
          m.config.maxConcurrentBatches)) w₃ (.ok (S.network, S.details)) ∧
      Ends w₃ m.freshId w' S.id := by
  obtain ⟨w₁, r, hwalk, h⟩ := ends_bind_iff.mp h
  rcases r with e | block
  · simp at h
  cases hb : block.executionBlock with
  | none => simp [hb] at h
  | some n =>
    simp only [hb] at h
    obtain ⟨w₂, r, hent, h⟩ := ends_bind_iff.mp h
    rcases r with e | entities
    · simp at h
    obtain ⟨w₃, r, hdet, h⟩ := ends_bind_iff.mp h
    rcases r with e | ⟨x, ds⟩
    · simp at h
    obtain ⟨w₄, id, hid, h⟩ := ends_bind_iff.mp h
    simp only [ends_done_iff, Except.ok.injEq] at h
    obtain ⟨rfl, rfl⟩ := h
    exact ⟨rfl, rfl, w₁, w₂, w₃, entities, hwalk, hb, (m.ends_entitiesAt_ok).mp hent, hdet, hid⟩

/-- **Every build that returns a snapshot ran as a `BuildRun`.** -/
theorem buildRun_of_ends {target : BuildTarget} {filter : EntityFilter} {w w' : σ}
    {S : Snapshot D N} (h : Ends w (m.build target filter) w' (.ok S)) :
    m.BuildRun target filter w w' S := by
  obtain ⟨w₁, r, hexec, h⟩ := ends_bind_iff.mp h
  rcases r with e | exec
  · simp at h
  obtain ⟨w₂, r, hbeacon, h⟩ := ends_bind_iff.mp h
  rcases r with e | beacon
  · simp at h
  obtain ⟨w₃, r, hslot, h⟩ := ends_bind_iff.mp h
  rcases r with e | s
  · simp at h
  obtain ⟨re, hre, hgetE⟩ := (m.ends_readyExecution_ok).mp hexec
  obtain ⟨rb, hrb, hgetB⟩ := (m.ends_readyBeacon_ok).mp hbeacon
  obtain ⟨rfl, hchain, w₄, w₅, w₆, entities, hwalk, hpay, hent, hdet, hid⟩ := m.assemble_ok_of_ends h
  exact ⟨exec, beacon, re, rb, w₁, w₂, w₃, w₄, w₅, w₆, entities, hre, hgetE, hrb, hgetB,
    (m.ends_targetSlotWith_ok).mp hslot, hwalk, hpay, hent, hdet, hid, hchain⟩

/-- What the publishing step gives back is the snapshot built, and the world changes exactly by
publishing it when it reads every entity. -/
theorem ends_publishIfComplete_ok {filter : EntityFilter} {r : Except StateError (Snapshot D N)}
    {w w' : σ} {S : Snapshot D N} (h : Ends w (m.publishIfComplete filter r) w' (.ok S)) :
    r = .ok S ∧ w' = if filter = .all then m.publish S w else w := by
  rcases r with e | s
  · simp [publishIfComplete] at h
  by_cases hf : filter = .all
  · simp only [publishIfComplete, hf, if_true, ends_update_iff, ends_done_iff, Except.ok.injEq] at h
    obtain ⟨rfl, rfl⟩ := h
    simp [hf]
  · simp only [publishIfComplete, hf, if_false, ends_done_iff, Except.ok.injEq] at h
    obtain ⟨rfl, rfl⟩ := h
    simp [hf]

/-- **Snapshot height consistency.** For every manager over any tracker, fetcher and answers of
the backing services, and under any cancellation token:

* a snapshot of every entity built without being published (`stateAt`, which covers the head,
  finalized and given-slot states) comes from a `BuildRun`;
* a snapshot returned by a build that may publish (`buildAndPublish`, which covers building at a
  slot, the head state of one entity and the updates to the head, the finalized slot or a slot)
  comes from a `BuildRun` of the same target and filter, and was published when it covers every
  entity;
* once the clients are chosen and the target slot read, a walk that ends at a block without an
  execution payload fails the build with `missingExecutionPayload` at that block's slot. -/
theorem snapshot_reads_consistent [LawfulClock σ] (tok : CancelToken) (target : BuildTarget)
    (filter : EntityFilter) {w w' : σ} {S : Snapshot D N} :
    (Ends w (m.stateAt target tok) w' (.ok S) → m.BuildRun target .all w w' S) ∧
    (Ends w (m.buildAndPublish target filter tok) w' (.ok S) →
      ∃ w'', m.BuildRun target filter w w'' S ∧
        w' = if filter = .all then m.publish S w'' else w'') ∧
    ∀ (exec : ExecutionApi σ) (beacon : BeaconApi σ) (w₁ w₂ w₃ : σ) (s : Nat) (b : BeaconBlock),
      Ends w m.readyExecution w₁ (.ok exec) → Ends w₁ m.readyBeacon w₂ (.ok beacon) →
      Ends w₂ (m.targetSlotWith exec beacon target) w₃ (.ok s) →
      Ends w₃ (m.resolveBlock beacon s) w' (.ok b) → b.executionBlock = none →
      Ends w (m.build target filter) w' (.error (.missingExecutionPayload b.slot)) := by
  refine ⟨?_, ?_, ?_⟩
  · intro h
    exact m.buildRun_of_ends (Ends.of_cancellable h (by simp))
  · intro h
    obtain ⟨w'', r, hbuild, hend⟩ := ends_bind_iff.mp h
    obtain ⟨rfl, rfl⟩ := m.ends_publishIfComplete_ok hend
    exact ⟨w'', m.buildRun_of_ends (Ends.of_cancellable hbuild (by simp)), rfl⟩
  · intro exec beacon w₁ w₂ w₃ s b hexec hbeacon hslot hwalk hb
    refine ends_bind_iff.mpr ⟨w₁, .ok exec, hexec, ?_⟩
    refine ends_bind_iff.mpr ⟨w₂, .ok beacon, hbeacon, ?_⟩
    exact ends_bind_iff.mpr ⟨w₃, .ok s, hslot, m.ends_assemble_missingPayload hwalk hb⟩

/-- The manager of `World.oneBlock` builds its snapshot at slot zero from the block there, and
that build ran as a `BuildRun`. -/
theorem snapshot_reads_consistent_oneBlock :
    let m := World.managerOf (World.oneBlock.tracker {} 0) World.emptyManager
    let S : Snapshot AccountDetails ExecutionHeader :=
      { id := 0, targetSlot := 0, block := ⟨0, 0, some 1000, none⟩, chain := World.secondSlots,
        executionBlock := 1000, network := ⟨1000, 0⟩, details := [] }
    let w' := (run 1000 World.oneBlock (m.stateAt (.slot 0) .never)).1
    Ends World.oneBlock (m.stateAt (.slot 0) .never) w' (.ok S) ∧
      m.BuildRun (.slot 0) .all World.oneBlock w' S := by
  intro m S w'
  have h : Ends World.oneBlock (m.stateAt (.slot 0) .never) w' (.ok S) :=
    ends_of_run 1000 (by with_unfolding_all rfl)
  exact ⟨h, (m.snapshot_reads_consistent .never (.slot 0) .all).1 h⟩

end Manager

end ChainWatch
