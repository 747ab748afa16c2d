import ChainWatch.Proofs.Fiber.Ends
import ChainWatch.State.Manager
import ChainWatch.Http.Beacon

/-!
# The walk back to a proposed block

A snapshot is anchored at a block found by walking back from its target slot: the beacon client
is asked for the block at the target slot, then at the slot before, and so on down to the slot
floor, and the first answer that is not a missed slot ends the walk (`Manager.resolveBlock`).

* `slotsDown s k` are the first `k` slots of a walk back from `s`: `s`, `s - 1`, …, `s - (k - 1)`.
  They are strictly decreasing (`slotsDown_pairwise`), and none lies below `f` when there are at
  most `s + 1 - f` of them (`le_of_mem_slotsDown`).
* `BeaconApi.Misses api w slots w'`: asked for each slot of `slots` in turn, the client answered
  every time that the slot was missed.
* `WalkStop s ans r`: the answer `ans` at slot `s` ends a walk with `r`: a block found there is
  the result as it is, and a failed request fails the walk with a context naming `s`.
* `Manager.ends_resolveBlock_iff`: a walk from `s` ends exactly when the client missed the slots
  `s`, `s - 1`, … down to a slot at or above the floor and its answer there stopped the walk, or
  missed every slot from `s` down to the floor and the walk fails with `missingData`.
* `Manager.walk_back_to_first_block` gathers this with the order of the slots asked and with
  what a missed slot is over HTTP (`BeaconNode.ends_beaconBlock_none_iff`): a `404` reply, and
  never a failed request.
-/

namespace ChainWatch

open ChainWatch.Fiber

/-! ### The slots of a walk -/

/-- The first `k` slots of a walk back from slot `s`: `s`, `s - 1`, …, `s - (k - 1)`. -/
def slotsDown (s k : Nat) : List Nat := (List.range k).map (s - ·)

@[simp] theorem slotsDown_zero (s : Nat) : slotsDown s 0 = [] := rfl

@[simp] theorem length_slotsDown (s k : Nat) : (slotsDown s k).length = k := by
  simp [slotsDown]

/-- A walk asks its first slot, then walks on from the slot before. -/
theorem slotsDown_succ (s k : Nat) : slotsDown s (k + 1) = s :: slotsDown (s - 1) k := by
  simp only [slotsDown, List.range_succ_eq_map, List.map_cons, List.map_map]
  congr 1
  exact List.map_congr_left fun i _ => by simp only [Function.comp_apply]; omega

theorem mem_slotsDown {s k x : Nat} : x ∈ slotsDown s k ↔ ∃ i < k, s - i = x := by
  simp [slotsDown]

/-- **The slots of a walk go strictly down**, as long as the walk does not pass slot zero. -/
theorem slotsDown_pairwise {s k : Nat} (hk : k ≤ s + 1) : (slotsDown s k).Pairwise (· > ·) := by
  unfold slotsDown
  rw [List.pairwise_map]
  refine (List.pairwise_lt_range (n := k)).imp_of_mem fun {i j} _ hj hij => ?_
  have : j < k := List.mem_range.mp hj
  omega

/-- A walk of at most `s + 1 - f` slots back from `s` stays between `f` and `s`. -/
theorem le_of_mem_slotsDown {s k f x : Nat} (hk : k ≤ s + 1 - f) (hx : x ∈ slotsDown s k) :
    f ≤ x ∧ x ≤ s := by
  obtain ⟨i, hi, rfl⟩ := mem_slotsDown.mp hx
  omega

/-! ### Missed slots and the answer that stops a walk -/

namespace BeaconApi

variable {σ : Type} [VirtualClock σ]

/-- The client, asked from the world `w` for the block at each slot of `slots` in turn, answered
each time that the slot was missed, and left the world `w'`. -/
inductive Misses (api : BeaconApi σ) : σ → List Nat → σ → Prop
  | nil (w : σ) : Misses api w [] w
  | cons {w w₁ w₂ : σ} {s : Nat} {ss : List Nat} :
      Ends w (api.beaconBlock s) w₁ (.ok none) → Misses api w₁ ss w₂ → Misses api w (s :: ss) w₂

variable {api : BeaconApi σ} {w w' : σ}

@[simp] theorem misses_nil_iff : api.Misses w [] w' ↔ w' = w :=
  ⟨fun h => by cases h; rfl, fun h => by subst h; exact .nil _⟩

theorem misses_cons_iff {s : Nat} {ss : List Nat} :
    api.Misses w (s :: ss) w' ↔ ∃ w₁, Ends w (api.beaconBlock s) w₁ (.ok none) ∧ api.Misses w₁ ss w' :=
  ⟨fun h => by cases h with | cons h₁ h₂ => exact ⟨_, h₁, h₂⟩, fun ⟨_, h₁, h₂⟩ => .cons h₁ h₂⟩

end BeaconApi

/-- The answer `ans` of the beacon client at slot `s` ends a walk with `r`: a block found there
is the result as it is, and a failed request fails the walk with a context naming the slot. A
missed slot ends nothing. -/
inductive WalkStop (s : Nat) :
    Except ClientError (Option BeaconBlock) → Except StateError BeaconBlock → Prop
  | found (b : BeaconBlock) : WalkStop s (.ok (some b)) (.ok b)
  | failed (e : ClientError) :
      WalkStop s (.error e) (.error (.client ("fetching the Beacon block at slot " ++ Nat.repr s) e))

/-! ### The walk -/

namespace Manager

variable {σ D N : Type} [TrackerWorld σ] (m : Manager σ D N)

/-- One slot of a walk: the client's answer there either stops the walk, or is a miss and the
walk goes on from the slot before with one slot less to go. -/
theorem ends_walkBack_succ_iff {api : BeaconApi σ} {fromSlot count slot : Nat} {w w' : σ}
    {r : Except StateError BeaconBlock} :
    Ends w (m.walkBack api fromSlot (count + 1) slot) w' r ↔
      ∃ w₁ ans, Ends w (api.beaconBlock slot) w₁ ans ∧
        ((ans = .ok none ∧ Ends w₁ (m.walkBack api fromSlot count (slot - 1)) w' r) ∨
          (w' = w₁ ∧ WalkStop slot ans r)) := by
  rw [walkBack, ends_bind_iff]
  refine exists_congr fun w₁ => exists_congr fun ans => and_congr_right fun _ => ?_
  rcases ans with e | _ | b
  · simp only [ends_done_iff, reduceCtorEq, false_and, false_or]
    constructor
    · rintro ⟨rfl, rfl⟩
      exact ⟨rfl, .failed e⟩
    · rintro ⟨rfl, hs⟩
      cases hs
      exact ⟨rfl, rfl⟩
  · -- a missed slot stops nothing
    simp only [true_and]
    constructor
    · exact Or.inl
    · rintro (h | ⟨-, hs⟩)
      · exact h
      · cases hs
  · simp only [ends_done_iff, Except.ok.injEq, reduceCtorEq, false_and, false_or]
    constructor
    · rintro ⟨rfl, rfl⟩
      exact ⟨rfl, .found b⟩
    · rintro ⟨rfl, hs⟩
      cases hs
      exact ⟨rfl, rfl⟩

/-- **A walk of `count` slots back from `slot`** ends exactly when the client missed the slots
`slot`, `slot - 1`, … up to some `slot - k` with `k < count` and its answer there stopped the
walk, or missed all `count` slots and the walk found no block. -/
theorem ends_walkBack_iff {api : BeaconApi σ} {fromSlot : Nat} :
    ∀ {count slot : Nat} {w w' : σ} {r : Except StateError BeaconBlock},
      Ends w (m.walkBack api fromSlot count slot) w' r ↔
        (∃ k w₁ ans, k < count ∧ api.Misses w (slotsDown slot k) w₁ ∧
          Ends w₁ (api.beaconBlock (slot - k)) w' ans ∧ WalkStop (slot - k) ans r) ∨
        (api.Misses w (slotsDown slot count) w' ∧
          r = .error (.missingData fromSlot m.config.slotFloor)) := by
  intro count
  induction count with
  | zero =>
    intro slot w w' r
    simp only [walkBack, ends_done_iff, Nat.not_lt_zero, false_and, exists_false, false_or,
      slotsDown_zero, BeaconApi.misses_nil_iff]
    exact and_congr_right fun _ => eq_comm
  | succ n ih =>
    intro slot w w' r
    rw [ends_walkBack_succ_iff]
    constructor
    · rintro ⟨w₁, ans, hans, ⟨rfl, hrest⟩ | ⟨rfl, hs⟩⟩
      · -- the first slot was missed: the rest of the walk is one slot shorter
        rcases ih.mp hrest with ⟨k, w₂, ans', hk, hmiss, hend, hs⟩ | ⟨hmiss, rfl⟩
        · refine Or.inl ⟨k + 1, w₂, ans', by omega, ?_, ?_, ?_⟩
          · rw [slotsDown_succ]
            exact .cons hans hmiss
          · rwa [Nat.sub_add_eq, Nat.sub_right_comm]
          · rwa [Nat.sub_add_eq, Nat.sub_right_comm]
        · refine Or.inr ⟨?_, rfl⟩
          rw [slotsDown_succ]
          exact .cons hans hmiss
      · exact Or.inl ⟨0, w, ans, by omega, .nil w, hans, hs⟩
    · rintro (⟨k, w₂, ans', hk, hmiss, hend, hs⟩ | ⟨hmiss, rfl⟩)
      · cases k with
        | zero =>
          obtain rfl := BeaconApi.misses_nil_iff.mp hmiss
          exact ⟨w', ans', hend, Or.inr ⟨rfl, hs⟩⟩
        | succ k =>
          rw [slotsDown_succ, BeaconApi.misses_cons_iff] at hmiss
          obtain ⟨w₁, hans, hmiss⟩ := hmiss
          rw [Nat.sub_add_eq, Nat.sub_right_comm] at hend hs
          exact ⟨w₁, .ok none, hans, Or.inl ⟨rfl, ih.mpr (Or.inl ⟨k, w₂, ans', by omega, hmiss, hend, hs⟩)⟩⟩
      · rw [slotsDown_succ, BeaconApi.misses_cons_iff] at hmiss
        obtain ⟨w₁, hans, hmiss⟩ := hmiss
        exact ⟨w₁, .ok none, hans, Or.inl ⟨rfl, ih.mpr (Or.inr ⟨hmiss, rfl⟩)⟩⟩

/-- **The walk from a slot to the floor.** Resolving the block at `s` ends exactly when the
client missed `s`, `s - 1`, … down to a slot `s - k` at or above the floor and its answer there
stopped the walk, or missed every slot from `s` down to the floor (none when `s` is below it) and
the walk fails with `missingData`. -/
theorem ends_resolveBlock_iff {api : BeaconApi σ} {s : Nat} {w w' : σ}
    {r : Except StateError BeaconBlock} :
    Ends w (m.resolveBlock api s) w' r ↔
      (∃ k w₁ ans, m.config.slotFloor + k ≤ s ∧ api.Misses w (slotsDown s k) w₁ ∧
        Ends w₁ (api.beaconBlock (s - k)) w' ans ∧ WalkStop (s - k) ans r) ∨
      (api.Misses w (slotsDown s (s + 1 - m.config.slotFloor)) w' ∧
        r = .error (.missingData s m.config.slotFloor)) := by
  rw [resolveBlock, ends_walkBack_iff]
  refine or_congr_left (exists_congr fun k => exists_congr fun w₁ => exists_congr fun ans => ?_)
  exact and_congr_left fun _ => by omega

end Manager

/-! ### A missed slot over HTTP -/

namespace BeaconNode

variable {σ : Type} (node : BeaconNode) (transport : Transport σ)

/-- **A payload is absent exactly when the node replies `404`**: a request that gets no
response, or any other status, is never read as absent. -/
theorem ends_getData_none_iff [VirtualClock σ] {α : Type} (path : String) (d : Decoder α)
    {w w' : σ} :
    Ends w (node.getData transport path d) w' (.ok none) ↔
      ∃ resp, Ends w (transport
          { method := .get, url := node.address ++ path, accept := some "application/json",
            contentType := none, body := none, timeoutMs := node.timeoutMs }) w' (.ok resp) ∧
        resp.status = 404 := by
  rw [getData, ends_bind_iff]
  constructor
  · rintro ⟨w₁, x, hsend, hend⟩
    rcases x with e | resp
    · simp at hend
    · by_cases h404 : resp.status = 404
      · simp only [h404, if_true, ends_done_iff] at hend
        exact ⟨resp, hend.1 ▸ hsend, h404⟩
      · -- any other status is a failure or a payload, never an absence
        simp only [h404, if_false] at hend
        split at hend
        · simp at hend
        · split at hend <;> simp at hend
  · rintro ⟨resp, hsend, h404⟩
    exact ⟨w', .ok resp, hsend, by simp [h404]⟩

/-- A slot is missed, for a beacon node over HTTP, exactly when the node replies `404` to the
request for its block. -/
theorem ends_beaconBlock_none_iff [VirtualClock σ] (slot : Nat) {w w' : σ} :
    Ends w ((node.api transport).beaconBlock slot) w' (.ok none) ↔
      ∃ resp, Ends w (transport
          { method := .get, url := node.address ++ ("/eth/v2/beacon/blocks/" ++ Nat.repr slot),
            accept := some "application/json", contentType := none, body := none,
            timeoutMs := node.timeoutMs }) w' (.ok resp) ∧
        resp.status = 404 :=
  node.ends_getData_none_iff transport _ _

end BeaconNode

/-! ### The walk, whole -/

namespace Manager

variable {σ D N : Type} [TrackerWorld σ] (m : Manager σ D N)

/-- **The walk back to a proposed block.** For every manager, beacon client and slot `s`, with
`f` the slot floor:

* resolving the block at `s` ends exactly when the client missed `s`, `s - 1`, …, `s - (k - 1)`
  and its answer at `s - k ≥ f` stopped the walk (a block is the result as it is, a failed
  request fails the walk naming `s - k`), or missed all `s + 1 - f` slots from `s` down to `f`
  (none when `s < f`) and the walk fails with `missingData s f`;
* the slots of such a walk, the first `k ≤ s + 1 - f` of `slotsDown s`, go strictly down from `s`
  and stay at or above `f`, so none is asked twice;
* over HTTP a slot is missed exactly when the node replies `404` to the request for its block, so
  a request that fails is never taken for a missed slot. -/
theorem walk_back_to_first_block (api : BeaconApi σ) (s : Nat) {w w' : σ}
    {r : Except StateError BeaconBlock} :
    (Ends w (m.resolveBlock api s) w' r ↔
      (∃ k w₁ ans, m.config.slotFloor + k ≤ s ∧ api.Misses w (slotsDown s k) w₁ ∧
        Ends w₁ (api.beaconBlock (s - k)) w' ans ∧ WalkStop (s - k) ans r) ∨
      (api.Misses w (slotsDown s (s + 1 - m.config.slotFloor)) w' ∧
        r = .error (.missingData s m.config.slotFloor))) ∧
    (∀ k ≤ s + 1 - m.config.slotFloor, (slotsDown s k).Pairwise (· > ·) ∧
      ∀ x ∈ slotsDown s k, m.config.slotFloor ≤ x ∧ x ≤ s) ∧
    (∀ (node : BeaconNode) (transport : Transport σ) (slot : Nat) (w₀ w₁ : σ),
      Ends w₀ ((node.api transport).beaconBlock slot) w₁ (.ok none) ↔
        ∃ resp, Ends w₀ (transport
            { method := .get, url := node.address ++ ("/eth/v2/beacon/blocks/" ++ Nat.repr slot),
              accept := some "application/json", contentType := none, body := none,
              timeoutMs := node.timeoutMs }) w₁ (.ok resp) ∧
          resp.status = 404) :=
  ⟨m.ends_resolveBlock_iff,
    fun _ hk => ⟨slotsDown_pairwise (by omega), fun _ hx => le_of_mem_slotsDown hk hx⟩,
    fun node transport slot _ _ => node.ends_beaconBlock_none_iff transport slot⟩

end Manager

end ChainWatch
