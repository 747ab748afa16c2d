import ChainWatch.Proofs.Health.Rounds
import ChainWatch.Proofs.Health.Deadline

/-!
# What a wait on a service does

`Tracker.SyncWait kind T w w' r moves` says how a wait of `T` milliseconds on `kind` goes when it
is called alone in `w`, with the wait lock of `kind` free and a token that never fires: it takes
the next ticket, and with it the lock at once; inside, it evaluates the service and goes round
(`Tracker.Waiting`) up to its limit, `T` milliseconds after it took the lock, or without limit
for zero; it gives the lock up when it ends, and when the limit cut its rounds, it first warns
that it timed out and ends with `false`.

That is exactly how the wait runs (`Tracker.ends_waitUntilSynced_iff`), so a wait ends as its
rounds do: with `true` once an evaluation finds a ready instance or a poll answers synced, with
the failure of an evaluation or of a poll, and with `false` only when its limit is positive and
has passed in full (`Tracker.sync_wait_goes_by_rounds`).
-/

namespace ChainWatch

open ChainWatch.Fiber

namespace Tracker

variable {σ : Type} [TrackerWorld σ] (t : Tracker σ) (kind : ServiceKind)

/-- The world once a wait on `kind` called in `w` took the next ticket and, the lock being free,
the lock with it. -/
def enteredWait (w : σ) : σ :=
  TrackerWorld.withRequest (TrackerWorld.setTicket w (TrackerWorld.ticket w + 1)) kind
    (TrackerWorld.ticket w)

/-- The world once the wait with ticket `τ` gave the lock of `kind` up. -/
def leftWait (τ : Nat) (w : σ) : σ :=
  TrackerWorld.setWaitLock w kind ((TrackerWorld.waitLock w kind).giveUp τ)

/-- The limit of a wait of `T` milliseconds that took its lock in `w`: none for zero. -/
def waitLimit (T : Nat) (w : σ) : Option Nat := if T = 0 then none else some (wakeTick w T)

/-- The warning of a wait of `T` milliseconds on `kind` whose time ran out. -/
def timeoutRecord (T : Nat) : LogRecord :=
  { level := .warn, target := "network_state::health::tracker",
    message := "Timed out after " ++ spanText T ++ " waiting for the " ++ kind.name ++ " client to sync" }

/-- A wait of `T` milliseconds on `kind`, called alone in `w` with its lock free and a token that
never fires, ends in `w'` with `r`, and its rounds made the moves `moves`. -/
inductive SyncWait (T : Nat) (w : σ) : σ → Except HealthError Bool → List (PollMove × Nat) → Prop
  /-- The rounds end the wait, which gives the lock up. -/
  | ended {w₁ : σ} {r : Except HealthError Bool} {moves : List (PollMove × Nat)} :
      t.Waiting kind (waitLimit T (enteredWait kind w)) (enteredWait kind w) w₁ (some r) moves →
      SyncWait T w (leftWait kind (TrackerWorld.ticket w) w₁) r moves
  /-- The limit cuts the rounds: the wait warns, gives the lock up and ends with `false`. -/
  | timedOut {w₁ : σ} {moves : List (PollMove × Nat)} :
      t.Waiting kind (waitLimit T (enteredWait kind w)) (enteredWait kind w) w₁ none moves →
      SyncWait T w (leftWait kind (TrackerWorld.ticket w) (TrackerWorld.log w₁ (timeoutRecord kind T)))
        (.ok false) moves

theorem freshTicket_bind {α : Type} (k : Nat → Fiber σ α) :
    Fiber.bind TrackerWorld.freshTicket k =
      .read fun w => .update (fun w => TrackerWorld.setTicket w (TrackerWorld.ticket w + 1)) (k (TrackerWorld.ticket w)) :=
  rfl

variable {t kind}

section Runs

variable (hl : TrackerWorld.LockLaws σ) (hc : TrackerWorld.ClockLaws σ)

include hl in
/-- **Holding a free lock** runs the body with the lock taken at once, then gives it up. -/
theorem ends_holding_free_iff {α : Type} {τ : Nat} {body : Fiber σ α} {w w' : σ} {a : α}
    (hfree : (TrackerWorld.waitLock w kind).tickets = []) :
    Ends w (holding (TrackerWorld.waitLock · kind) (TrackerWorld.setWaitLock · kind) τ body) w' a ↔
      ∃ w₁, Ends (TrackerWorld.withRequest w kind τ) body w₁ a ∧ w' = leftWait kind τ w₁ := by
  have hheld : (TrackerWorld.waitLock (TrackerWorld.withRequest w kind τ) kind).heldBy τ = true := by
    rw [hl.waitLock_setWaitLock_self]
    exact FairLock.heldBy_request_of_tickets_eq_nil hfree τ
  simp only [holding, ends_update_iff]
  constructor
  · intro h
    cases h with
    | pass _ h => exact ends_releasing_iff.mp h
    | wake hr => simp [hheld] at hr
  · intro h
    exact .pass hheld (ends_releasing_iff.mpr h)

include hc in
theorem now_enteredWait (w : σ) : VirtualClock.now (enteredWait kind w) = VirtualClock.now w := by
  rw [enteredWait, hc.now_setWaitLock, hc.now_setTicket]

include hc in
theorem now_leftWait (τ : Nat) (w : σ) : VirtualClock.now (leftWait kind τ w) = VirtualClock.now w :=
  hc.now_setWaitLock _ _ _

theorem byLimit_waitLimit (T : Nat) (w : σ) : ByLimit (waitLimit T w) (VirtualClock.now w) := by
  unfold waitLimit wakeTick
  split
  · exact byLimit_none
  · exact byLimit_some.mpr (by omega)

variable [LawfulClock σ] (ht : t.Keeps VirtualClock.now)

include ht in
/-- What a wait runs inside its lock ends as its rounds do up to the limit, warning when the limit
cut them. -/
theorem ends_waitBody_iff {T : Nat} {w w' : σ} {r : Except HealthError Bool} :
    Ends w (t.waitBody kind T) w' r ↔
      (∃ moves, t.Waiting kind (waitLimit T w) w w' (some r) moves) ∨
        (∃ w₁ moves, t.Waiting kind (waitLimit T w) w w₁ none moves ∧
          w' = TrackerWorld.log w₁ (timeoutRecord kind T) ∧ r = .ok false) := by
  have hw := byLimit_waitLimit T w
  unfold waitBody
  by_cases hT : T = 0
  · -- without a limit the rounds are never cut
    have hd : waitLimit T w = none := if_pos hT
    rw [if_pos hT, hd, ← within_pollUntilSynced_iff ht (hd ▸ hw), within_none_iff]
    constructor
    · intro h
      exact .inl ⟨r, h, rfl⟩
    · rintro (⟨a, h, ha⟩ | ⟨w₁, moves, h, -⟩)
      · cases ha
        exact h
      · obtain ⟨D, hD, -⟩ := Within.now_of_stopped (ht.pollUntilSynced kind) byLimit_none
          ((within_pollUntilSynced_iff ht byLimit_none).mpr ⟨moves, h⟩)
        cases hD
  · have hd : waitLimit T w = some (wakeTick w T) := if_neg hT
    rw [if_neg hT, hd, ends_bind_iff]
    rw [hd] at hw
    constructor
    · rintro ⟨w₁, x, hrace, hk⟩
      rw [(ht.pollUntilSynced kind).ends_race_sleep_iff_within hT,
        within_pollUntilSynced_iff ht hw] at hrace
      rcases x with r' | ⟨⟩
      · obtain ⟨rfl, rfl⟩ := ends_done_iff.mp hk
        exact .inl hrace
      · simp only [TrackerWorld.warn, ends_bind_iff, ends_modify_iff, ends_done_iff] at hk
        obtain ⟨_, ⟨⟩, rfl, rfl, rfl⟩ := hk
        obtain ⟨moves, h⟩ := hrace
        exact .inr ⟨_, moves, h, rfl, rfl⟩
    · rintro (⟨moves, h⟩ | ⟨w₁, moves, h, rfl, rfl⟩)
      · refine ⟨w', .inl r, ?_, .done _ _⟩
        rw [(ht.pollUntilSynced kind).ends_race_sleep_iff_within hT, within_pollUntilSynced_iff ht hw]
        exact ⟨moves, h⟩
      · refine ⟨w₁, .inr (), ?_, ?_⟩
        · rw [(ht.pollUntilSynced kind).ends_race_sleep_iff_within hT, within_pollUntilSynced_iff ht hw]
          exact ⟨moves, h⟩
        · simp only [TrackerWorld.warn, ends_bind_iff, ends_modify_iff, ends_done_iff]
          exact ⟨_, (), rfl, rfl, trivial⟩

include hl ht in
/-- **A wait on a service, called alone with its lock free and a token that never fires, is what
`Tracker.SyncWait` says.** -/
theorem ends_waitUntilSynced_iff {T : Nat} {w w' : σ} {r : Except HealthError Bool}
    (hfree : (TrackerWorld.waitLock w kind).tickets = []) :
    Ends w (t.waitUntilSynced kind T .never) w' r ↔ ∃ moves, t.SyncWait kind T w w' r moves := by
  have hfree' : (TrackerWorld.waitLock (TrackerWorld.setTicket w (TrackerWorld.ticket w + 1)) kind).tickets = [] := by
    rw [hl.waitLock_setTicket]
    exact hfree
  rw [waitUntilSynced_eq, freshTicket_bind, ends_read_iff, ends_update_iff, ends_bind_iff]
  constructor
  · -- the token never fires, so the race is the lock held around the body
    rintro ⟨w₂, x, hrace, hk⟩
    obtain ⟨a, rfl, hheld⟩ := ends_race_hang_iff.mp hrace
    obtain ⟨rfl, rfl⟩ := ends_done_iff.mp hk
    obtain ⟨w₁, hb, rfl⟩ := (ends_holding_free_iff hl hfree').mp hheld
    rcases (ends_waitBody_iff ht).mp hb with ⟨moves, h⟩ | ⟨w₂, moves, h, rfl, rfl⟩
    · exact ⟨moves, .ended h⟩
    · exact ⟨moves, .timedOut h⟩
  · rintro ⟨moves, h⟩
    have hbody : ∀ {w₁ : σ}, Ends (enteredWait kind w) (t.waitBody kind T) w₁ r →
        Ends (TrackerWorld.setTicket w (TrackerWorld.ticket w + 1))
          (Fiber.race CancelToken.never.cancelled (holding (TrackerWorld.waitLock · kind)
            (TrackerWorld.setWaitLock · kind) (TrackerWorld.ticket w) (t.waitBody kind T)))
          (leftWait kind (TrackerWorld.ticket w) w₁) (.inr r) :=
      fun hb => ends_race_hang_iff.mpr ⟨r, rfl, (ends_holding_free_iff hl hfree').mpr ⟨_, hb, rfl⟩⟩
    cases h with
    | ended h => exact ⟨_, .inr r, hbody ((ends_waitBody_iff ht).mpr (.inl ⟨_, h⟩)), .done _ _⟩
    | timedOut h =>
      exact ⟨_, .inr _, hbody ((ends_waitBody_iff ht).mpr (.inr ⟨_, _, h, rfl, rfl⟩)), .done _ _⟩

include hc ht in
/-- A wait ends with `false` only once its positive limit has passed in full. -/
theorem SyncWait.false_at_limit {T : Nat} {w w' : σ} {moves : List (PollMove × Nat)}
    (h : t.SyncWait kind T w w' (.ok false) moves) :
    T ≠ 0 ∧ VirtualClock.now w' = 2 * (VirtualClock.now w / 2 + T) := by
  have hw := byLimit_waitLimit T (enteredWait kind w)
  cases h with
  | ended h => exact absurd rfl (h.ne_false)
  | timedOut h =>
    -- the rounds were cut at the limit, so there was one, and the clock stands at it
    obtain ⟨D, hD, hnow⟩ := Within.now_of_stopped (ht.pollUntilSynced kind) hw
      ((within_pollUntilSynced_iff ht hw).mpr ⟨_, h⟩)
    unfold waitLimit at hD
    split at hD
    · cases hD
    · rename_i hT
      cases hD
      refine ⟨hT, ?_⟩
      rw [now_leftWait hc, ht.log, hnow, wakeTick, now_enteredWait hc]

include hl hc ht in
/-- **A wait on a service ends as its rounds do.** Called alone over a tracker whose requests
leave the clock alone, with the lock of the service free and a token that never fires, a wait of
`T` milliseconds runs exactly as `Tracker.SyncWait` says, whatever the probes answer: it evaluates
the service, then polls the instance it waits on at once and after each poll interval, and
evaluates afresh each time the refresh interval has passed; it ends with `true` once an
evaluation finds a ready instance or a poll answers synced, recording a synced poll, with the
failure of an evaluation or of a poll, recording a failed poll, and with `false` only when `T` is
positive and `T` milliseconds have passed since it was called. -/
theorem sync_wait_goes_by_rounds (kind : ServiceKind) (T : Nat) {w w' : σ} {r : Except HealthError Bool}
    (hfree : (TrackerWorld.waitLock w kind).tickets = []) :
    (Ends w (t.waitUntilSynced kind T .never) w' r ↔ ∃ moves, t.SyncWait kind T w w' r moves) ∧
      (Ends w (t.waitUntilSynced kind T .never) w' r → r = .ok false →
        T ≠ 0 ∧ VirtualClock.now w' = 2 * (VirtualClock.now w / 2 + T)) := by
  refine ⟨ends_waitUntilSynced_iff hl ht hfree, fun h hr => ?_⟩
  subst hr
  obtain ⟨moves, hs⟩ := (ends_waitUntilSynced_iff hl ht hfree).mp h
  exact hs.false_at_limit hc ht

end Runs

end Tracker

/-- A wait of one second on the node that stays syncing gives up when its second has passed. -/
theorem sync_wait_on_syncing_node_gives_up :
    let t := World.syncingExecution.tracker {} 0
    let w' := (run 1000 World.syncingExecution (t.waitUntilSynced .execution 1000 .never)).1
    Ends World.syncingExecution (t.waitUntilSynced .execution 1000 .never) w' (.ok false) ∧
      (1000 ≠ 0 ∧ VirtualClock.now w' = 2 * (VirtualClock.now World.syncingExecution / 2 + 1000)) := by
  intro t w'
  have h : Ends World.syncingExecution (t.waitUntilSynced .execution 1000 .never) w' (.ok false) :=
    ends_of_run_snd 1000 (by with_unfolding_all rfl)
  exact ⟨h, (Tracker.sync_wait_goes_by_rounds World.lockLaws World.clockLaws
    (World.tracker_keeps_now _ _ _) .execution 1000 rfl).2 h rfl⟩

end ChainWatch
