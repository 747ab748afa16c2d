import ChainWatch.Health.Gates
import ChainWatch.Proofs.Health.WaitLock
import ChainWatch.Proofs.Scenario.Laws

/-!
# Waits on a service follow one another

Every wait on a service, and every gate built on one, follows the protocol of the wait locks
(`LockSafe.waitUntilSynced`, `WaitCall.lockSafe_run`): it takes a fresh ticket, queues it, polls only
once its ticket holds the lock, and gives the lock up on each of its ends, including a
cancellation and a time limit that cuts a probe short. So in a pool of such calls, whatever the
order in which they take their turns, at most one is inside the lock of a service at a time, a
lock only ever holds the tickets of calls on its own service, and a call that has ended holds
nothing (`waits_on_a_service_are_serialized`).

What a wait does once inside is its own: it starts with a whole evaluation of the service
(`Tracker.ends_pollUntilSynced`), whatever the waits before it found.
-/

namespace ChainWatch

open ChainWatch.Fiber

/-! ### What the waits and gates keep -/

namespace Tracker.Keeps

variable {σ ν : Type} [TrackerWorld σ] {view : σ → ν} {t : Tracker σ}

theorem pollRound (h : t.Keeps view) (kind : ServiceKind) (s : Selection × Nat) :
    Fiber.Keeps view (t.pollRound kind s) := by
  obtain ⟨sel, lastRefresh⟩ := s
  cases sel with
  | ready _ => exact .done trivial
  | waitOn role =>
    refine Keeps.now.bind fun now _ => ?_
    split
    · -- the refresh evaluates the service afresh
      refine (h.evaluate kind).bind fun r _ => ?_
      rcases r with e | sel
      · exact .done trivial
      · exact Keeps.now.bind fun _ _ => .done trivial
    · -- a fine poll of the instance waited on, recorded
      refine (Tracker.keeps_poll h.execution h.beacon kind role).bind fun r _ => ?_
      rcases r with e | (p | _)
      · exact (h.record kind role _).bind fun _ _ => .done trivial
      · exact (h.record kind role _).bind fun _ _ => (Keeps.sleep _).bind fun _ _ => .done trivial
      · exact (h.record kind role _).bind fun _ _ => .done trivial

theorem pollUntilSynced (h : t.Keeps view) (kind : ServiceKind) :
    Fiber.Keeps view (t.pollUntilSynced kind) := by
  refine Keeps.now.bind fun start _ => (h.evaluate kind).bind fun r _ => ?_
  rcases r with e | sel
  · exact .done trivial
  · exact Keeps.loop (fun _ => True)
      (fun s _ => (h.pollRound kind s).mono fun r _ => by cases r <;> trivial) _ trivial

theorem hasCode (h : t.Keeps view) (address : Address) (tok : CancelToken) :
    Fiber.Keeps view (t.hasCode address tok) := by
  unfold Tracker.hasCode
  dsimp only
  refine (tok.keeps_cancelled.race (?_ : Fiber.Keeps view _)).bind fun r _ => by
    rcases r with _ | r <;> exact .done trivial
  refine (h.readyRole .execution).bind fun r _ => ?_
  rcases r with e | role
  · exact .done trivial
  · -- the code is asked of the instance found ready
    dsimp only
    split
    · exact .done trivial
    · rename_i api hapi
      exact ((h.execution.get? hapi).codeAt address none).bind fun r _ => by
        rcases r with e | code <;> exact .done trivial

theorem contractRound (h : t.Keeps view) (address : Address) (tok : CancelToken) (u : Unit) :
    Fiber.Keeps view (t.contractRound address tok u) := by
  refine (h.hasCode address tok).bind fun r _ => ?_
  rcases r with e | (_ | _)
  · exact .done trivial
  · exact (tok.keeps_cancelled.race (Keeps.sleep _)).bind fun r _ => by
      rcases r with _ | _ <;> exact .done trivial
  · exact .done trivial

end Tracker.Keeps

/-! ### Every wait and gate follows the protocol of the locks -/

section Waits

variable {σ : Type} [TrackerWorld σ]

/-- What a gate does after its wait, outside any lock, leaves the locks alone. -/
theorem LockSafe.afterWait {α : Type} {gate : Fiber σ (Except HealthError Unit)}
    (hgate : ∀ w, LockSafe (fun _ φ => φ = .idle) .idle w gate)
    {rest : Except HealthError Unit → Fiber σ α} (hrest : ∀ r, Fiber.Keeps TrackerWorld.locks (rest r))
    (w : σ) : LockSafe (fun _ φ => φ = .idle) .idle w (Fiber.bind gate rest) :=
  (hgate w).bind fun r ψ w' hψ => by
    cases hψ
    exact (LockSafe.of_framed (hrest r) w').mono fun _ _ h => h.2

variable (hl : TrackerWorld.LockLaws σ) {t : Tracker σ}
  (ht : t.Keeps TrackerWorld.locks)
include hl ht

/-- **A wait follows the protocol of the wait locks**, and ends holding nothing: the body runs
inside the lock, and every end of it (synced, out of time, failed, cancelled while queued or
while inside) gives the lock up. -/
theorem LockSafe.waitUntilSynced (kind : ServiceKind) (timeoutMs : Nat) (tok : CancelToken)
    (w : σ) : LockSafe (fun _ φ => φ = .idle) .idle w (t.waitUntilSynced kind timeoutMs tok) := by
  unfold Tracker.waitUntilSynced
  dsimp only
  refine (LockSafe.freshTicket hl w).bind fun τ ψ w' hψ => ?_
  cases hψ
  refine (LockSafe.race tok.keeps_cancelled
    (LockSafe.holding hl (?_ : Fiber.Keeps TrackerWorld.locks _) w') LockSafe.holding_drop).bind ?_
  · -- the body, bounded in time or not, leaves the locks alone
    split
    · exact ht.pollUntilSynced kind
    · refine ((ht.pollUntilSynced kind).race (Keeps.sleep _)).bind fun r _ => ?_
      rcases r with r | _
      · exact .done trivial
      · exact (ht.warn _).bind fun _ _ => .done trivial
  · rintro (_ | r) ψ w'' hr
    · exact .done hr.2
    · exact .done hr.2

/-- Waiting within a time limit, as the gates do. -/
theorem LockSafe.requireWithin (kind : ServiceKind) (timeoutMs : Nat) (tok : CancelToken) (w : σ) :
    LockSafe (fun _ φ => φ = .idle) .idle w (t.requireWithin kind timeoutMs tok) :=
  (LockSafe.waitUntilSynced hl ht kind timeoutMs tok w).bind fun r ψ _ hψ => by
    rcases r with e | (_ | _) <;> exact .done hψ

/-- **Every gate follows the protocol of the wait locks**: its wait does, and what it does
after leaves the locks alone. -/
theorem LockSafe.requireSynced (kind : ServiceKind) (tok : CancelToken) (w : σ) :
    LockSafe (fun _ φ => φ = .idle) .idle w (t.requireSynced kind tok) :=
  LockSafe.requireWithin hl ht kind _ tok w

theorem LockSafe.waitSynced (kind : ServiceKind) (tok : CancelToken) (w : σ) :
    LockSafe (fun _ φ => φ = .idle) .idle w (t.waitSynced kind tok) :=
  LockSafe.requireWithin hl ht kind 0 tok w

theorem LockSafe.requireContract (address : Address) (tok : CancelToken) (w : σ) :
    LockSafe (fun _ φ => φ = .idle) .idle w (t.requireContract address tok) := by
  refine LockSafe.afterWait (LockSafe.requireSynced hl ht .execution tok) (fun r => ?_) w
  rcases r with e | _
  · exact .done trivial
  · exact (ht.hasCode address tok).bind fun r _ => by
      rcases r with e | (_ | _) <;> exact .done trivial

theorem LockSafe.waitContract (address : Address) (tok : CancelToken) (w : σ) :
    LockSafe (fun _ φ => φ = .idle) .idle w (t.waitContract address tok) := by
  refine LockSafe.afterWait (LockSafe.waitSynced hl ht .execution tok) (fun r => ?_) w
  rcases r with e | _
  · exact .done trivial
  · exact Keeps.loop (fun _ => True)
      (fun u _ => (ht.contractRound address tok u).mono fun r _ => by cases r <;> trivial) _ trivial

end Waits

end ChainWatch

namespace ChainWatch

open ChainWatch.Fiber

/-- A call that waits for a service through its wait lock: the wait itself, or a gate on it. -/
inductive WaitCall where
  | waitUntilSynced (kind : ServiceKind) (timeoutMs : Nat) (tok : CancelToken)
  | requireSynced (kind : ServiceKind) (tok : CancelToken)
  | waitSynced (kind : ServiceKind) (tok : CancelToken)
  | requireContract (address : Address) (tok : CancelToken)
  | waitContract (address : Address) (tok : CancelToken)

namespace WaitCall

variable {σ : Type} [TrackerWorld σ]

/-- The answer of a gate, `true` when it lets work go on. -/
def passed (gate : Fiber σ (Except HealthError Unit)) : Fiber σ (Except HealthError Bool) :=
  Fiber.bind gate fun r => .done (r.map fun _ => true)

/-- Makes a call with a tracker. -/
def run (t : Tracker σ) : WaitCall → Fiber σ (Except HealthError Bool)
  | waitUntilSynced kind timeoutMs tok => t.waitUntilSynced kind timeoutMs tok
  | requireSynced kind tok => passed (t.requireSynced kind tok)
  | waitSynced kind tok => passed (t.waitSynced kind tok)
  | requireContract address tok => passed (t.requireContract address tok)
  | waitContract address tok => passed (t.waitContract address tok)

variable (hl : TrackerWorld.LockLaws σ) {t : Tracker σ} (ht : t.Keeps TrackerWorld.locks)
include hl ht

theorem lockSafe_run (c : WaitCall) (w : σ) :
    LockSafe (fun _ φ => φ = .idle) .idle w (c.run t) := by
  -- a gate's answer is read off once it holds nothing
  have hpassed : ∀ {gate : Fiber σ (Except HealthError Unit)},
      (∀ w, LockSafe (fun _ φ => φ = .idle) .idle w gate) →
      LockSafe (fun _ φ => φ = .idle) .idle w (passed gate) :=
    fun hgate => (hgate w).bind fun _ _ _ hψ => .done hψ
  cases c with
  | waitUntilSynced kind timeoutMs tok => exact LockSafe.waitUntilSynced hl ht kind timeoutMs tok w
  | requireSynced kind tok => exact hpassed (LockSafe.requireSynced hl ht kind tok)
  | waitSynced kind tok => exact hpassed (LockSafe.waitSynced hl ht kind tok)
  | requireContract address tok => exact hpassed (LockSafe.requireContract hl ht address tok)
  | waitContract address tok => exact hpassed (LockSafe.waitContract hl ht address tok)

end WaitCall

/-! ### A wait starts afresh -/

/-- **A wait starts with an evaluation of its own**: every run of its body begins with a whole
evaluation of the service, and ends with the evaluation's failure, or with `true` when the
evaluation found an instance ready. -/
theorem Tracker.ends_pollUntilSynced {σ : Type} [TrackerWorld σ] (t : Tracker σ)
    (kind : ServiceKind) {w w' : σ} {r : Except HealthError Bool}
    (h : Ends w (t.pollUntilSynced kind) w' r) :
    ∃ w₁ res, Ends w (t.evaluate kind) w₁ res ∧
      (∀ e, res = .error e → w' = w₁ ∧ r = .error e) ∧
      (∀ role, res = .ok (.ready role) → w' = w₁ ∧ r = .ok true) := by
  unfold Tracker.pollUntilSynced at h
  obtain ⟨w₀, start, hnow, hrest⟩ := ends_bind_iff.mp h
  obtain ⟨rfl, -⟩ := ends_now_iff.mp hnow
  obtain ⟨w₁, res, heval, hsel⟩ := ends_bind_iff.mp hrest
  refine ⟨w₁, res, heval, fun e he => ?_, fun role hr => ?_⟩
  · subst he
    obtain ⟨rfl, rfl⟩ := ends_done_iff.mp hsel
    exact ⟨rfl, rfl⟩
  · subst hr
    -- a ready instance ends the first round of the polls
    obtain ⟨n, hn⟩ : ∃ n, Fiber.rounds = n + 1 := ⟨_, rfl⟩
    rw [hn] at hsel
    obtain ⟨rfl, rfl⟩ := ends_done_iff.mp hsel
    exact ⟨rfl, rfl⟩

/-! ### Waits side by side -/

section Serialized

variable {σ α : Type} [TrackerWorld σ]

/-- What the phases `phases` of the tasks of a pool say of its wait locks: each task follows
the protocol from its phase; at most one task is inside the lock of a service, and the lock is
held by its ticket; a lock holds only the tickets of tasks queued for it or inside it; and a
task that has ended holds no ticket. -/
structure WaitsSerialized (c : Pool σ α) (phases : List LockPhase) : Prop where
  follow : ∀ (i : Nat) (p : Fiber σ α) (φ : LockPhase), c.tasks[i]? = some p →
    phases[i]? = some φ → ∀ w, LockSafe (fun _ ψ => ψ = .idle) φ w p
  exclusive : ∀ (i j : Nat) (k : ServiceKind) (τ τ' : Nat), phases[i]? = some (.inside k τ) →
    phases[j]? = some (.inside k τ') → i = j
  holds : ∀ (i : Nat) (k : ServiceKind) (τ : Nat), phases[i]? = some (.inside k τ) →
    (TrackerWorld.waitLock c.world k).holder = some τ
  owned : ∀ (k : ServiceKind) (τ : Nat), τ ∈ (TrackerWorld.waitLock c.world k).tickets →
    ∃ j : Nat, phases[j]? = some (.queued k τ) ∨ phases[j]? = some (.inside k τ)
  released : ∀ (i : Nat) (a : α), c.tasks[i]? = some (.done a) → phases[i]? = some .idle

/-- The phases of a pool that keeps the protocol say all of it. -/
theorem LockState.serialized {c : Pool σ α} {phases : List LockPhase}
    (hs : LockState (fun _ ψ => ψ = .idle) c phases) : WaitsSerialized c phases where
  follow := hs.safe
  exclusive _ _ _ _ _ hi hj := hs.inv.inside_unique hi hj
  holds i _ _ hi := (hs.inv.fits i _ hi).2
  owned := hs.inv.owned
  released i a hp := by
    have hlt : i < phases.length := by
      rw [hs.length]
      exact (List.getElem?_eq_some_iff.mp hp).1
    obtain ⟨φ, hφ⟩ : ∃ φ, phases[i]? = some φ := ⟨_, List.getElem?_eq_getElem hlt⟩
    -- a task that has ended is in the phase it ends in
    have hend := hs.safe i _ φ hp hφ c.world
    cases hend with
    | done hψ => rw [hφ, hψ]

/-- Once every task has ended, no lock holds a ticket. -/
theorem WaitsSerialized.free {c : Pool σ α} {phases : List LockPhase}
    (hs : WaitsSerialized c phases) (hlen : phases.length = c.tasks.length)
    (hdone : ∀ p ∈ c.tasks, ∃ a, p = .done a) (k : ServiceKind) :
    (TrackerWorld.waitLock c.world k).tickets = [] := by
  refine List.eq_nil_iff_forall_not_mem.mpr fun τ hτ => ?_
  obtain ⟨j, hj⟩ := hs.owned k τ hτ
  have hlt : j < c.tasks.length := by
    rw [← hlen]
    rcases hj with hj | hj <;> exact (List.getElem?_eq_some_iff.mp hj).1
  obtain ⟨a, ha⟩ := hdone _ (List.getElem_mem hlt)
  have hidle := hs.released j a (by rw [List.getElem?_eq_getElem hlt, ha])
  rcases hj with hj | hj <;> rw [hidle] at hj <;> cases hj

end Serialized

/-- **Waits on a service are serialized.** In every run of a pool of waits and gates over a
tracker whose requests leave the locks alone, started with every lock free, whatever the order
in which the calls take their turns: there are phases of the calls that say where each stands
with the locks, such that at most one call is inside the lock of a service and holds it, a lock
holds only the tickets of calls on its own service, and a call that has ended, on any of its
ends, holds nothing; so once all have ended every lock is free. And a wait starts afresh, with
an evaluation of its own. -/
theorem waits_on_a_service_are_serialized {σ : Type} [TrackerWorld σ]
    (hl : TrackerWorld.LockLaws σ) {t : Tracker σ} (ht : t.Keeps TrackerWorld.locks)
    (calls : List WaitCall) {w : σ} (hfree : ∀ k, (TrackerWorld.waitLock w k).tickets = [])
    {ends : List (Option (Nat × Except HealthError Bool))} {c : Pool σ (Except HealthError Bool)}
    (hrun : Pool.Run ⟨w, calls.map (WaitCall.run t)⟩ ends c) :
    (∃ phases, phases.length = c.tasks.length ∧ WaitsSerialized c phases) ∧
    ((∀ p ∈ c.tasks, ∃ a, p = .done a) → ∀ k, (TrackerWorld.waitLock c.world k).tickets = []) ∧
    (∀ kind {w₀ w₁ : σ} {r : Except HealthError Bool}, Ends w₀ (t.pollUntilSynced kind) w₁ r →
      ∃ w₂ res, Ends w₀ (t.evaluate kind) w₂ res ∧
        (∀ e, res = .error e → w₁ = w₂ ∧ r = .error e) ∧
        (∀ role, res = .ok (.ready role) → w₁ = w₂ ∧ r = .ok true)) := by
  have hstart : LockState (fun _ ψ => ψ = .idle) ⟨w, calls.map (WaitCall.run t)⟩ _ :=
    LockState.start hfree fun p hp w => by
      obtain ⟨call, -, rfl⟩ := List.mem_map.mp hp
      exact WaitCall.lockSafe_run hl ht call w
  obtain ⟨phases, hs⟩ := hstart.run hl hrun
  have hser := hs.serialized
  exact ⟨⟨phases, hs.length, hser⟩, fun hdone => hser.free hs.length hdone,
    fun kind _ _ _ h => t.ends_pollUntilSynced kind h⟩

end ChainWatch

namespace ChainWatch

/-! ### Waits in the world of a scenario -/

/-- A world of a scenario keeps its wait locks and tickets as the laws say. -/
theorem World.lockLaws : TrackerWorld.LockLaws World where
  waitLock_setWaitLock_self _ k _ := by cases k <;> rfl
  waitLock_setWaitLock_of_ne _ k k' _ hk := by
    cases k <;> cases k' <;> first | exact absurd rfl hk | rfl
  ticket_setWaitLock _ k _ := by cases k <;> rfl
  waitLock_setTicket _ _ := rfl
  ticket_setTicket _ _ := rfl
  locks_setNow _ _ := rfl

/-- The requests of the tracker of a scenario leave the wait locks alone. -/
theorem World.tracker_keeps_locks (w : World) (config : HealthConfig) (wallClock : Nat) :
    (w.tracker config wallClock).Keeps TrackerWorld.locks :=
  w.tracker_keeps config wallClock (fun _ _ _ => rfl) (fun _ _ _ => rfl)
    (fun _ kind _ _ => by cases kind <;> rfl) fun _ _ => rfl

/-- Two waits on the beacon service of the scenario with one block: the first takes the lock,
finds the service synced and ends, while the second waits its turn. -/
theorem waits_on_a_service_are_serialized_twoWaits :
    let t := World.oneBlock.tracker {} 0
    let calls : List WaitCall :=
      [.waitUntilSynced .beacon 0 .never, .waitUntilSynced .beacon 0 .never]
    ∃ ends c, Pool.Run ⟨World.oneBlock, calls.map (WaitCall.run t)⟩ ends c ∧
      c.tasks[0]? = some (.done (.ok true)) ∧
      ∃ phases, phases.length = c.tasks.length ∧ WaitsSerialized c phases := by
  intro t calls
  -- the first wait queues, the second queues behind it, the first goes on to its end
  have hrun := (((Pool.Run.refl (c := ⟨World.oneBlock, calls.map (WaitCall.run t)⟩)).turn (i := 0)
    rfl (by with_unfolding_all rfl)).turn (i := 1) rfl (by with_unfolding_all rfl)).turn (i := 0)
    rfl (by with_unfolding_all rfl)
  exact ⟨_, _, hrun, by with_unfolding_all rfl,
    (waits_on_a_service_are_serialized World.lockLaws (World.tracker_keeps_locks _ _ _) calls
      (fun k => by cases k <;> rfl) hrun).1⟩

end ChainWatch
