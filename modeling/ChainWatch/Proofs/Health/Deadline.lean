import ChainWatch.Proofs.Fiber.Timely
import ChainWatch.Proofs.Health.Waiters

/-!
# How long a wait takes

A wait on a service counts its time limit from the moment it holds the service's wait lock, not
from the moment it is called. So a wait that finds the lock free, run alone, ends within its
limit, however the probes answer, hang or fail and whatever its token does, and so does a gate
built on it (`Tracker.free_wait_ends_within_limit`). The body a wait runs inside the lock races
the polls against a sleep of the limit, so it keeps the deadline of the limit from any tick it
starts at (`Tracker.waitBody_timely`): none of its blocks waits past that deadline, so a run of it
never hangs beyond the limit. What stands before it is a token that has not fired and a lock taken
at once (`Fiber.Ends.race_holding_free_le`).

A wait called beside another wait on the same service first waits for the lock, for as long as
the other holds it, and only then starts its own limit: two waits of one second called together
on a node that stays syncing end at one second and at two (`second_wait_outlasts_its_limit`).
-/

namespace ChainWatch

open ChainWatch.Fiber

/-- How a world keeps its clock apart from the wait locks and the tickets: setting either leaves
the time alone. -/
structure TrackerWorld.ClockLaws (σ : Type) [TrackerWorld σ] : Prop where
  now_setWaitLock : ∀ (w : σ) k l, VirtualClock.now (TrackerWorld.setWaitLock w k l) = VirtualClock.now w
  now_setTicket : ∀ (w : σ) n, VirtualClock.now (TrackerWorld.setTicket w n) = VirtualClock.now w

theorem FairLock.heldBy_request_of_tickets_eq_nil {l : FairLock} (h : l.tickets = []) (τ : Nat) :
    (l.request τ).heldBy τ = true := by
  obtain ⟨hh, hq⟩ : l.holder = none ∧ l.queue = [] := by simpa [FairLock.tickets] using h
  simp [FairLock.request, FairLock.heldBy, hh, hq]

namespace Tracker

variable {σ : Type} [TrackerWorld σ] (t : Tracker σ) (kind : ServiceKind)

/-- What a wait runs inside its lock: its rounds, raced against a sleep of its limit if it has
one. -/
def waitBody (T : Nat) : Fiber σ (Except HealthError Bool) :=
  if T = 0 then t.pollUntilSynced kind
  else Fiber.bind (Fiber.race (t.pollUntilSynced kind) (Fiber.sleep T)) fun
    | .inl r => .done r
    | .inr () => Fiber.bind (TrackerWorld.warn ("Timed out after " ++ spanText T ++
        " waiting for the " ++ kind.name ++ " client to sync")) fun () => .done (.ok false)

theorem waitUntilSynced_eq (T : Nat) (tok : CancelToken) :
    t.waitUntilSynced kind T tok =
      Fiber.bind TrackerWorld.freshTicket fun τ =>
        Fiber.bind (Fiber.race tok.cancelled
            (holding (TrackerWorld.waitLock · kind) (TrackerWorld.setWaitLock · kind) τ (t.waitBody kind T))) fun
          | .inl () => .done (.error .cancelled)
          | .inr r => .done r :=
  rfl


end Tracker

section Deadline

variable {σ α : Type} [TrackerWorld σ] (hl : TrackerWorld.LockLaws σ)
  (hc : TrackerWorld.ClockLaws σ)

/-- The world once ticket `τ` asked for the lock of `kind`. -/
abbrev TrackerWorld.withRequest (w : σ) (kind : ServiceKind) (τ : Nat) : σ :=
  TrackerWorld.setWaitLock w kind ((TrackerWorld.waitLock w kind).request τ)

namespace Fiber

include hl in
/-- **Beside a token that has not fired, holding a free lock goes straight to the body**, made
to give the lock up when it ends or is dropped. -/
theorem Ends.besideBlocked_holding_free {wc : Wait σ} {kind : ServiceKind} {τ : Nat}
    {body : Fiber σ α} {w w' : σ} {fin : Finish σ Unit α}
    (hfree : (TrackerWorld.waitLock w kind).tickets = []) (hwc : wc.ready (TrackerWorld.withRequest w kind τ) = false)
    (h : Ends w (besideBlocked wc (.done ()) (firstDone (.done ()))
      (holding (TrackerWorld.waitLock · kind) (TrackerWorld.setWaitLock · kind) τ body)) w' fin) :
    Ends (TrackerWorld.withRequest w kind τ) (besideBlocked wc (.done ()) (firstDone (.done ()))
      (releasing (fun v => TrackerWorld.setWaitLock v kind ((TrackerWorld.waitLock v kind).giveUp τ))
        body)) w' fin := by
  have hheld : (TrackerWorld.waitLock (TrackerWorld.withRequest w kind τ) kind).heldBy τ = true := by
    rw [hl.waitLock_setWaitLock_self]
    exact FairLock.heldBy_request_of_tickets_eq_nil hfree τ
  simp only [holding, besideBlocked, ends_update_iff] at h
  cases h with
  | pass _ h =>
    rw [ends_read_iff, if_neg (by simp [hwc])] at h
    exact h
  | wake hr => simp [Wait.either, hheld] at hr

include hl hc in
/-- Beside a token that has not fired and gives nothing back, holding a free lock with a body
timely from the start ends by the body's deadline, with a clocked finish. -/
theorem Ends.besideBlocked_holding_free_le [LawfulClock σ] {wc : Wait σ} (hrel : wc.release = id)
    {kind : ServiceKind} {τ D : Nat} {P : α → Prop} {body : Fiber σ α} {w w₁ : σ}
    {fin : Finish σ Unit α} (hfree : (TrackerWorld.waitLock w kind).tickets = [])
    (hready : wc.ready (TrackerWorld.withRequest w kind τ) = false)
    (hbody : Timely D P (VirtualClock.now w) body) (hD : VirtualClock.now w ≤ D)
    (h : Ends w (besideBlocked wc (.done ()) (firstDone (.done ()))
      (holding (TrackerWorld.waitLock · kind) (TrackerWorld.setWaitLock · kind) τ body)) w₁ fin) :
    VirtualClock.now w₁ ≤ D ∧ Finish.Clocked (fun _ => True) P fin := by
  have hnow : VirtualClock.now (TrackerWorld.withRequest w kind τ) = VirtualClock.now w :=
    hc.now_setWaitLock _ _ _
  have hgiveUp : ∀ v, VirtualClock.now
      (TrackerWorld.setWaitLock v kind ((TrackerWorld.waitLock v kind).giveUp τ)) = VirtualClock.now v :=
    fun v => hc.now_setWaitLock _ _ _
  -- the body, made to give the lock up, is watched beside the token from the request on
  have htimely : Timely D (Finish.Clocked (fun _ => True) P) (VirtualClock.now (TrackerWorld.withRequest w kind τ))
      (besideBlocked wc (.done ()) (firstDone (.done ())) (releasing _ body)) :=
    Timely.besideBlocked (fun v => by rw [hrel]; rfl) (fun _ hb => ⟨hb, fun v => by rw [dropped, hrel]; rfl⟩)
      (fun _ _ _ hq => .done ⟨trivial, hq.dropped⟩) (hnow ▸ Timely.releasing hgiveUp hbody) (hnow ▸ hD)
  exact htimely.ends (Ends.besideBlocked_holding_free hl hfree hready h) rfl (hnow ▸ hD)

include hl hc in
/-- **A token raced against holding a free lock ends by the deadline of the body**, when the body
is timely from the start: a token that has fired ends the race at once, and one that has not is
watched beside the body, which goes past the lock at once. -/
theorem Ends.race_holding_free_le [LawfulClock σ] (tok : CancelToken) {kind : ServiceKind}
    {τ D : Nat} {P : α → Prop} {body : Fiber σ α} {w w' : σ} {x : Unit ⊕ α}
    (hfree : (TrackerWorld.waitLock w kind).tickets = [])
    (hbody : Timely D P (VirtualClock.now w) body) (hD : VirtualClock.now w ≤ D)
    (h : Ends w (race tok.cancelled
      (holding (TrackerWorld.waitLock · kind) (TrackerWorld.setWaitLock · kind) τ body)) w' x) :
    VirtualClock.now w' ≤ D := by
  obtain ⟨w₁, fin, hfirst, hdrop⟩ := ends_race_clocked h
  -- a token that has fired ends the race before the lock is asked for
  have hfired : Ends w (firstDone (.done ())
      (holding (TrackerWorld.waitLock · kind) (TrackerWorld.setWaitLock · kind) τ body)) w₁ fin →
      VirtualClock.now w₁ ≤ D ∧ Finish.Clocked (fun _ => True) P fin := by
    intro hrun
    obtain ⟨rfl, rfl⟩ := ends_done_iff.mp hrun
    exact ⟨hD, trivial, fun _ => rfl⟩
  have hfin : VirtualClock.now w₁ ≤ D ∧ Finish.Clocked (fun _ => True) P fin := by
    cases tok with
    | never => exact Ends.besideBlocked_holding_free_le hl hc rfl hfree rfl hbody hD hfirst
    | already => exact hfired hfirst
    | firesAt tc =>
      simp only [CancelToken.cancelled, waitEvent, waitUntilTick, firstDone, ends_read_iff] at hfirst
      split at hfirst
      · exact hfired hfirst
      · rename_i hlt
        have hready : 2 * tc + 1 > VirtualClock.now (TrackerWorld.withRequest w kind τ) := by
          rw [hc.now_setWaitLock]
          omega
        exact Ends.besideBlocked_holding_free_le hl hc rfl hfree (by simpa using hready) hbody hD hfirst
  rw [hdrop hfin.2]
  exact hfin.1

end Fiber

/-- **The body of a wait with a positive limit keeps the deadline of that limit**, from whatever
tick it starts at, over a tracker whose requests leave the clock alone: each of its blocks is
woken by a timer no later than the limit, however the probes answer, hang or fail. -/
theorem Tracker.waitBody_timely {t : Tracker σ} (ht : t.Keeps VirtualClock.now) (kind : ServiceKind)
    {T : Nat} (hT : T ≠ 0) (m : Nat) :
    Timely (2 * (m / 2 + T)) (fun _ => True) m (t.waitBody kind T) := by
  have hD : m ≤ 2 * (m / 2 + T) := by omega
  rw [Tracker.waitBody, if_neg hT]
  -- the polls race the sleep, whose timer is the limit; what follows the race keeps the clock
  refine (Timely.race (ht.pollUntilSynced kind) (Timely.sleep hT) hD).bind hD fun y _ _ _ _ => ?_
  rcases y with y | ⟨⟩
  · exact .done trivial
  · exact .update (fun v => ht.log v _) (.done trivial)

include hl hc in
/-- A wait with a positive limit that finds its lock free, run alone, ends by its limit: it takes
a ticket, and races its token against the lock taken at once and the polls raced against the
limit. -/
theorem Tracker.ends_waitUntilSynced_le [LawfulClock σ] {t : Tracker σ} (ht : t.Keeps VirtualClock.now)
    (kind : ServiceKind) {T : Nat} (hT : T ≠ 0) (tok : CancelToken) {w w' : σ}
    {r : Except HealthError Bool} (hfree : (TrackerWorld.waitLock w kind).tickets = [])
    (h : Ends w (t.waitUntilSynced kind T tok) w' r) :
    VirtualClock.now w' ≤ 2 * (VirtualClock.now w / 2 + T) := by
  rw [Tracker.waitUntilSynced_eq] at h
  obtain ⟨w₁, τ, hticket, hrest⟩ := ends_bind_iff.mp h
  simp only [TrackerWorld.freshTicket, ends_read_iff, ends_update_iff, ends_done_iff] at hticket
  obtain ⟨rfl, rfl⟩ := hticket
  have hnow : VirtualClock.now (TrackerWorld.setTicket w (TrackerWorld.ticket w + 1)) =
      VirtualClock.now w := hc.now_setTicket _ _
  obtain ⟨w₂, x, hrace, hend⟩ := ends_bind_iff.mp hrest
  have hw' : w' = w₂ := by
    rcases x with ⟨⟩ | y <;> simp only [ends_done_iff] at hend <;> exact hend.1
  subst hw'
  rw [← hnow]
  have hD : VirtualClock.now (TrackerWorld.setTicket w (TrackerWorld.ticket w + 1)) ≤
      2 * (VirtualClock.now (TrackerWorld.setTicket w (TrackerWorld.ticket w + 1)) / 2 + T) := by
    omega
  refine Ends.race_holding_free_le hl hc tok (P := fun _ => True) ?_ ?_ hD hrace
  · rw [hl.waitLock_setTicket]
    exact hfree
  · exact t.waitBody_timely ht kind hT _

include hl hc in
/-- **A wait that finds its lock free ends within its limit, and so does a gate built on it.**
Run alone over a tracker whose requests leave the clock alone, from a world in which the lock of
the service holds no ticket: a wait with a positive limit of `T` milliseconds, called at
millisecond `m`, ends by millisecond `m + T`, and a gate that requires the service to be synced
ends within the configured sync timeout when that is positive; whatever the probes answer, hang
or fail, and whatever the token does. -/
theorem Tracker.free_wait_ends_within_limit [LawfulClock σ] {t : Tracker σ}
    (ht : t.Keeps VirtualClock.now) (kind : ServiceKind) (tok : CancelToken) {w : σ}
    (hfree : (TrackerWorld.waitLock w kind).tickets = []) :
    (∀ {T : Nat} {w' : σ} {r : Except HealthError Bool}, T ≠ 0 →
      Ends w (t.waitUntilSynced kind T tok) w' r → VirtualClock.now w' ≤ 2 * (VirtualClock.now w / 2 + T)) ∧
    (t.config.syncTimeout ≠ 0 → ∀ {w' : σ} {r : Except HealthError Unit},
      Ends w (t.requireSynced kind tok) w' r →
        VirtualClock.now w' ≤ 2 * (VirtualClock.now w / 2 + t.config.syncTimeout)) := by
  refine ⟨fun hT h => t.ends_waitUntilSynced_le hl hc ht kind hT tok hfree h, fun hT w' r h => ?_⟩
  -- the gate reads the wait's answer and ends where the wait did
  obtain ⟨w₁, b, hwait, hend⟩ := ends_bind_iff.mp h
  have hw' : w' = w₁ := by
    rcases b with e | (_ | _) <;> simp only [ends_done_iff] at hend <;> exact hend.1
  subst hw'
  exact t.ends_waitUntilSynced_le hl hc ht kind hT tok hfree hwait

end Deadline

/-! ### Waits in the world of a scenario -/

/-- A world of a scenario keeps its clock apart from its wait locks and tickets. -/
theorem World.clockLaws : TrackerWorld.ClockLaws World where
  now_setWaitLock _ k _ := by cases k <;> rfl
  now_setTicket _ _ := rfl

/-- The requests of the tracker of a scenario leave the clock alone. -/
theorem World.tracker_keeps_now (w : World) (config : HealthConfig) (wallClock : Nat) :
    (w.tracker config wallClock).Keeps VirtualClock.now :=
  w.tracker_keeps config wallClock (fun _ _ _ => rfl) (fun _ _ _ => rfl)
    (fun _ kind _ _ => by cases kind <;> rfl) fun _ _ => rfl

/-- A world whose execution node stays syncing at 40 % and whose beacon node answers with its
defaults, at time zero with every lock free. -/
def World.syncingExecution : World :=
  World.start ⟨{ syncScript := [.ok (some ⟨0, 40, 100⟩)] }, none⟩ ⟨{}, none⟩

/-- A wait of one second on the node that stays syncing gives up at one second. -/
theorem wait_on_syncing_node_ends_within_limit :
    let t := World.syncingExecution.tracker {} 0
    let w' := (run 1000 World.syncingExecution (t.waitUntilSynced .execution 1000 .never)).1
    Ends World.syncingExecution (t.waitUntilSynced .execution 1000 .never) w' (.ok false) ∧
      VirtualClock.now w' ≤ 2 * (VirtualClock.now World.syncingExecution / 2 + 1000) := by
  intro t w'
  have h : Ends World.syncingExecution (t.waitUntilSynced .execution 1000 .never) w' (.ok false) :=
    ends_of_run_snd 1000 (by with_unfolding_all rfl)
  exact ⟨h, (Tracker.free_wait_ends_within_limit World.lockLaws World.clockLaws
    (World.tracker_keeps_now _ _ _) .execution .never rfl).1 (by decide) h⟩

/-- **A wait called beside another one outlasts its limit.** Two waits on the execution node that
stays syncing, each with a limit of one second, called side by side at time zero: the first
gives up at one second, and the second, which waited that second for the lock, only at two. -/
theorem second_wait_outlasts_its_limit :
    let t := World.syncingExecution.tracker {} 0
    let timed : Fiber World (Except HealthError Bool × Nat) :=
      Fiber.bind (t.waitUntilSynced .execution 1000 .never) fun r =>
        Fiber.bind Fiber.now fun ms => .done (r, ms)
    VirtualClock.now World.syncingExecution = 0 ∧
      Ends World.syncingExecution (both timed timed) (run 1000 World.syncingExecution (both timed timed)).1
        ((.ok false, 1000), (.ok false, 2000)) :=
  ⟨rfl, ends_of_run_snd 1000 (by with_unfolding_all rfl)⟩


end ChainWatch
