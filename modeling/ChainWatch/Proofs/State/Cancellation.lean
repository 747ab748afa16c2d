import ChainWatch.Proofs.Fiber.Token
import ChainWatch.Proofs.Health.SyncWait
import ChainWatch.Proofs.State.Frame

/-!
# Cancellation comes first

Every public operation of the manager and of the tracker races its work against a cancellation
token, and looks at the token first. Runs are determined by where they start (`Fiber.Ends.unique`),
so each statement below says how an operation ends, and that is the only way it can end:

* a token cancelled already wins before the work takes a step. The work is dropped before it
  starts, and work that has not started holds nothing (`Fiber.Pending`): its first step is the
  first probe of a service (`Manager.pending_build`). So an operation of the manager ends with
  `cancelled` in the very world it was called in (`Manager.ends_latestProposedBlock_already` and
  its neighbours), and a wait or gate of the tracker ends with `cancelled` having only taken its
  ticket (`Tracker.ends_waitUntilSynced_already` and its neighbours);
* a wait whose token fires while it is queued for its lock leaves the queue as it found it, and
  nothing but its ticket, the locks and the clock moves (`Tracker.ends_waitUntilSynced_queued`);
* against a token that fires at a tick, work that keeps the clock wins exactly when it would end
  alone before that tick (`Fiber.ends_race_waitUntilTick_of_lt`), and loses when it would end at
  the tick or later (`Fiber.exists_ends_race_waitUntilTick_of_le`): a build that would complete
  after the token fired gives `cancelled`, not its snapshot
  (`Manager.exists_ends_buildAndPublish_cancelled`).

`cancellation_comes_first` gathers these.
-/

namespace ChainWatch

open ChainWatch.Fiber

/-! ### Work that has not started -/

namespace Fiber

variable {σ α β γ : Type}

/-- `p` takes a step before it can end, and dropping it before that step does `d`. -/
def Pending (d : σ → σ) (p : Fiber σ α) : Prop := (∀ a, p ≠ .done a) ∧ p.dropped = d

theorem Pending.bind {d : σ → σ} {p : Fiber σ α} (hp : Pending d p) (f : α → Fiber σ β) :
    Pending d (Fiber.bind p f) := by
  obtain ⟨hne, hd⟩ := hp
  cases p with
  | done a => exact absurd rfl (hne a)
  | read k => exact ⟨nofun, hd⟩
  | update g n => exact ⟨nofun, hd⟩
  | block wt n => exact ⟨nofun, hd⟩

/-- A fiber followed by steps that hold nothing is pending as the fiber is dropped. -/
theorem pending_bind {p : Fiber σ α} {f : α → Fiber σ β} (hf : ∀ a, Pending id (f a)) :
    Pending p.dropped (Fiber.bind p f) := by
  cases p with
  | done a => exact hf a
  | read k => exact ⟨nofun, rfl⟩
  | update g n => exact ⟨nofun, rfl⟩
  | block wt n => exact ⟨nofun, rfl⟩

theorem pending_update (g : σ → σ) (n : Fiber σ α) : Pending id (Fiber.update g n) :=
  ⟨nofun, rfl⟩

variable [VirtualClock σ]

/-- **A fired token wins at once**: the race ends before the other fiber takes a step, and drops
it. -/
theorem ends_race_done_iff {q : Fiber σ β} {w w' : σ} {x : Unit ⊕ β} :
    Ends w (race (.done ()) q) w' x ↔ w' = q.dropped w ∧ x = .inl () := by
  rw [race_done, ends_update_iff, ends_done_iff, eq_comm (a := x)]

/-! ### A token that fires at a tick

A token that has not fired when the race starts waits beside the other fiber for its tick, and
is looked at first each time the other fiber's wait is over. -/

theorem firstDone_waitUntilTick (T : Nat) (q : Fiber σ β) :
    firstDone (waitUntilTick T) q = read fun w =>
      if T ≤ VirtualClock.now w then .done (.left () q)
      else besideBlocked (Wait.forTick T) (.done ()) (firstDone (.done ())) q := by
  rw [waitUntilTick_eq]
  simp only [firstDone]
  congr
  funext w
  split <;> rfl

/-- A block whose wait is over beside a token that has not fired goes on with its rest. -/
theorem Ends.besideBlocked_forTick_pass {T : Nat} {u : γ} {wt : Wait σ} {m : Fiber σ β} {w w' : σ}
    {x : Finish σ γ β} (hr : wt.ready w = true) (hw : VirtualClock.now w < T)
    (h : Ends w (besideBlocked (Wait.forTick T) (.done u) (firstDone (.done u)) m) w' x) :
    Ends w (besideBlocked (Wait.forTick T) (.done u) (firstDone (.done u)) (block wt m)) w' x := by
  refine .pass (by simp [Wait.either, hr]) (.read ?_)
  rw [if_neg (by simpa [Wait.forTick] using hw)]
  exact h

/-- A block whose timer comes before the token's tick wakes there, the token still waiting. -/
theorem Ends.besideBlocked_forTick_wake {T t : Nat} {u : γ} {wt : Wait σ} {m : Fiber σ β}
    {w w' : σ} {x : Finish σ γ β} (hr : wt.ready w = false) (ht : wt.timer = some t)
    (hlt : VirtualClock.now w < t) (htT : t < T)
    (h : Ends (VirtualClock.setNow w t)
      (besideBlocked (Wait.forTick T) (.done u) (firstDone (.done u)) (block wt m)) w' x) :
    Ends w (besideBlocked (Wait.forTick T) (.done u) (firstDone (.done u)) (block wt m)) w' x := by
  refine .wake ?_ ?_ hlt h
  · simp [Wait.either, Wait.forTick, hr]
    omega
  · simp [Wait.either, Wait.earlier, Wait.forTick, ht, Nat.min_eq_right (Nat.le_of_lt htT)]

variable [LawfulClock σ]

/-- A fiber that keeps the clock only moves it on by waiting. -/
theorem Ends.now_le {p : Fiber σ α} {w w' : σ} {a : α} (h : Ends w p w' a)
    (hp : Keeps VirtualClock.now p) : VirtualClock.now w ≤ VirtualClock.now w' := by
  induction h with
  | done => exact Nat.le_refl _
  | read _ ih =>
    cases hp with
    | read hk => exact ih (hk _)
  | update _ ih =>
    cases hp with
    | update hf hn =>
      have := ih hn
      rwa [hf] at this
  | pass _ _ ih => exact ih hp.of_block
  | wake _ _ hlt _ ih =>
    have := ih hp
    rw [LawfulClock.now_setNow] at this
    omega

/-- Beside a fiber that waits on past tick `T`, a token of tick `T` fires there and wins. -/
theorem ends_besideBlocked_forTick_block {T : Nat} {u : γ} {wt : Wait σ} {m : Fiber σ β} {w : σ}
    (hw : VirtualClock.now w < T) (hr : wt.ready w = false) (ht : ∀ t, wt.timer = some t → T ≤ t) :
    Ends w (besideBlocked (Wait.forTick T) (.done u) (firstDone (.done u)) (block wt m))
      (VirtualClock.setNow w T) (.left u (block wt m)) := by
  have htimer : ((Wait.forTick T).either wt).timer = some T := by
    cases h : wt.timer with
    | none => simp [Wait.either, Wait.earlier, Wait.forTick, h]
    | some t => simp [Wait.either, Wait.earlier, Wait.forTick, h, Nat.min_eq_left (ht t h)]
  refine .wake ?_ htimer hw (.pass (by simp [Wait.either, Wait.forTick]) (.read ?_))
  · simp [Wait.either, Wait.forTick, hr]
    omega
  · rw [if_pos (by simp [Wait.forTick])]
    exact .done _ _

/-- **Beside a token of tick `T`, a fiber that ends alone before `T` ends first**, as it would
alone, and the token it leaves behind holds nothing. -/
theorem Ends.besideBlocked_forTick_right {T : Nat} {u : γ} {q : Fiber σ β} {w w' : σ} {b : β}
    (h : Ends w q w' b) (hq : Keeps VirtualClock.now q) (hT : VirtualClock.now w' < T) :
    Ends w (besideBlocked (Wait.forTick T) (.done u) (firstDone (.done u)) q) w'
      (.right (block (Wait.forTick T) (.done u)) b) := by
  induction h with
  | done => exact .done _ _
  | read _ ih =>
    cases hq with
    | read hk => exact .read (ih (hk _) hT)
  | update _ ih =>
    cases hq with
    | update _ hn => exact .update (ih hn hT)
  | pass hr hn ih =>
    -- the token has not fired here, since the clock only goes on from here to the end
    exact besideBlocked_forTick_pass hr (Nat.lt_of_le_of_lt (hn.now_le hq.of_block) hT)
      (ih hq.of_block hT)
  | wake hr ht hlt hn ih =>
    have htT := hn.now_le hq
    rw [LawfulClock.now_setNow] at htT
    exact besideBlocked_forTick_wake hr ht hlt (by omega) (ih hq hT)

/-- **Beside a token of tick `T`, a fiber that would alone go on to `T` or past it loses.** -/
theorem Ends.besideBlocked_forTick_left {T : Nat} {u : γ} {q : Fiber σ β} {w w₁ : σ} {b : β}
    (h : Ends w q w₁ b) (hq : Keeps VirtualClock.now q) (hw : VirtualClock.now w < T)
    (hT : T ≤ VirtualClock.now w₁) :
    ∃ w' rest, Ends w (besideBlocked (Wait.forTick T) (.done u) (firstDone (.done u)) q) w'
      (.left u rest) := by
  induction h with
  | done => omega
  | read _ ih =>
    cases hq with
    | read hk =>
      obtain ⟨w', rest, h⟩ := ih (hk _) hw hT
      exact ⟨w', rest, .read h⟩
  | update _ ih =>
    cases hq with
    | update hf hn =>
      obtain ⟨w', rest, h⟩ := ih hn (by rw [hf]; exact hw) hT
      exact ⟨w', rest, .update h⟩
  | pass hr _ ih =>
    obtain ⟨w', rest, h⟩ := ih hq.of_block hw hT
    exact ⟨w', rest, besideBlocked_forTick_pass hr hw h⟩
  | @wake _ _ _ _ _ t hr ht hlt _ ih =>
    by_cases htT : t < T
    · -- the block wakes first, before the token's tick
      obtain ⟨w', rest, h⟩ := ih hq (by rw [LawfulClock.now_setNow]; exact htT) hT
      exact ⟨w', rest, besideBlocked_forTick_wake hr ht hlt htT h⟩
    · -- the token's tick comes first
      exact ⟨_, _, ends_besideBlocked_forTick_block hw hr fun t' ht' => by
        rw [ht] at ht'
        cases ht'
        omega⟩

/-- **Work that ends before a token's tick wins the race**, with the world and value it ends
with alone. -/
theorem ends_race_waitUntilTick_of_lt {T : Nat} {q : Fiber σ β} {w w' : σ} {b : β}
    (hq : Keeps VirtualClock.now q) (h : Ends w q w' b) (hT : VirtualClock.now w' < T) :
    Ends w (race (waitUntilTick T) q) w' (.inr b) := by
  unfold race
  rw [firstDone_waitUntilTick]
  refine .read ?_
  dsimp only
  rw [if_neg (by have := h.now_le hq; omega)]
  exact (h.besideBlocked_forTick_right hq hT).bind (.update (.done _ _))

/-- **Work that would end at a token's tick or later loses the race.** -/
theorem exists_ends_race_waitUntilTick_of_le {T : Nat} {q : Fiber σ β} {w w₁ : σ} {b : β}
    (hq : Keeps VirtualClock.now q) (h : Ends w q w₁ b) (hT : T ≤ VirtualClock.now w₁) :
    ∃ w', Ends w (race (waitUntilTick T) q) w' (.inl ()) := by
  unfold race
  rw [firstDone_waitUntilTick]
  by_cases hw : T ≤ VirtualClock.now w
  · exact ⟨q.dropped w, .read (by dsimp only; rw [if_pos hw]; exact .update (.done _ _))⟩
  · obtain ⟨w', rest, h'⟩ := h.besideBlocked_forTick_left (u := ()) hq (by omega) hT
    exact ⟨rest.dropped w', .read (by dsimp only; rw [if_neg hw]; exact h'.bind (.update (.done _ _)))⟩

end Fiber

/-! ### Cancellable work -/

section Cancellable

variable {σ α : Type} [VirtualClock σ] {body : Fiber σ (Except StateError α)}

/-- An operation of the manager with a token cancelled already ends at once with `cancelled`,
having dropped its work. -/
theorem ends_cancellable_already {w w' : σ} {r : Except StateError α} :
    Ends w (cancellable .already body) w' r ↔ w' = body.dropped w ∧ r = .error .cancelled := by
  show Ends w (.update body.dropped (.done (.error .cancelled))) w' r ↔ _
  rw [ends_update_iff, ends_done_iff, eq_comm (a := r)]

/-- Work that has not started and holds nothing is cancelled where it was called. -/
theorem Fiber.Pending.ends_cancellable_already {d : σ → σ} (hp : Pending d body) (hd : d = id)
    (w : σ) : Ends w (cancellable .already body) w (.error .cancelled) :=
  ChainWatch.ends_cancellable_already.mpr ⟨by rw [hp.2, hd]; rfl, rfl⟩

variable [LawfulClock σ] {c : Nat}

theorem ends_cancellable_firesAt_of_lt (hb : Keeps VirtualClock.now body) {w w' : σ}
    {r : Except StateError α} (h : Ends w body w' r) (hT : VirtualClock.now w' < 2 * c + 1) :
    Ends w (cancellable (.firesAt c) body) w' r :=
  (ends_race_waitUntilTick_of_lt hb h hT).bind (.done _ _)

theorem exists_ends_cancellable_firesAt_of_le (hb : Keeps VirtualClock.now body) {w w₁ : σ}
    {r : Except StateError α} (h : Ends w body w₁ r) (hT : 2 * c + 1 ≤ VirtualClock.now w₁) :
    ∃ w', Ends w (cancellable (.firesAt c) body) w' (.error .cancelled) := by
  obtain ⟨w', h'⟩ := exists_ends_race_waitUntilTick_of_le hb h hT
  exact ⟨w', h'.bind (.done _ _)⟩

end Cancellable

/-! ### The first step of an operation -/

namespace Tracker

variable {σ : Type} [TrackerWorld σ] (t : Tracker σ)

/-- A scan starts with the probe of its first instance, and records what it saw before it can
end. -/
theorem pending_scan (kind : ServiceKind) (r : Role) (rs : List Role) (waiting : Option Role) :
    Pending (t.poll kind r).dropped (t.scan kind (r :: rs) waiting) :=
  pending_bind fun _ => pending_update _ _

/-- An evaluation starts with the probe of the primary instance. -/
theorem pending_evaluate (kind : ServiceKind) :
    Pending (t.poll kind .primary).dropped (t.evaluate kind) := by
  unfold evaluate roles Endpoints.roles
  cases kind <;> dsimp only <;> split <;> exact t.pending_scan _ _ _ _

theorem pending_readyRole (kind : ServiceKind) :
    Pending (t.poll kind .primary).dropped (t.readyRole kind) :=
  (t.pending_evaluate kind).bind _

end Tracker

namespace Manager

variable {σ D N : Type} [TrackerWorld σ] (m : Manager σ D N)

theorem pending_readyExecution :
    Pending (m.tracker.poll .execution .primary).dropped m.readyExecution :=
  (m.tracker.pending_readyRole .execution).bind _

theorem pending_readyBeacon : Pending (m.tracker.poll .beacon .primary).dropped m.readyBeacon :=
  (m.tracker.pending_readyRole .beacon).bind _

/-- **A build starts with the first probe of the execution service.** -/
theorem pending_build (target : BuildTarget) (filter : EntityFilter) :
    Pending (m.tracker.poll .execution .primary).dropped (m.build target filter) :=
  m.pending_readyExecution.bind _

end Manager

/-! ### A token cancelled already -/

namespace Manager

variable {σ D N : Type} [TrackerWorld σ] (m : Manager σ D N)
  (hfree : ∀ kind, (m.tracker.poll kind .primary).dropped = id)

include hfree

theorem ends_latestProposedBlock_already (fromSlot : Nat) (w : σ) :
    Ends w (m.latestProposedBlock fromSlot .already) w (.error .cancelled) :=
  (m.pending_readyBeacon.bind _).ends_cancellable_already (hfree .beacon) w

theorem ends_latestBeaconBlock_already (w : σ) :
    Ends w (m.latestBeaconBlock .already) w (.error .cancelled) :=
  (m.pending_readyExecution.bind _).ends_cancellable_already (hfree .execution) w

theorem ends_latestFinalizedBeaconBlock_already (w : σ) :
    Ends w (m.latestFinalizedBeaconBlock .already) w (.error .cancelled) :=
  (m.pending_readyBeacon.bind _).ends_cancellable_already (hfree .beacon) w

theorem ends_stateAt_already (target : BuildTarget) (w : σ) :
    Ends w (m.stateAt target .already) w (.error .cancelled) :=
  (m.pending_build target .all).ends_cancellable_already (hfree .execution) w

/-- A cancelled build publishes nothing. -/
theorem ends_buildAndPublish_already (target : BuildTarget) (filter : EntityFilter) (w : σ) :
    Ends w (m.buildAndPublish target filter .already) w (.error .cancelled) :=
  ((m.pending_build target filter).ends_cancellable_already (hfree .execution) w).bind (.done _ _)

end Manager

namespace Tracker

variable {σ : Type} [TrackerWorld σ] (t : Tracker σ)

/-- A wait with a token cancelled already takes its ticket and ends, without asking for the
lock. -/
theorem ends_waitUntilSynced_already (kind : ServiceKind) (T : Nat) (w : σ) :
    Ends w (t.waitUntilSynced kind T .already)
      (TrackerWorld.setTicket w (TrackerWorld.ticket w + 1)) (.error .cancelled) := by
  rw [waitUntilSynced_eq, freshTicket_bind]
  exact .read (.update ((ends_race_done_iff.mpr ⟨rfl, rfl⟩).bind (.done _ _)))

theorem ends_requireWithin_already (kind : ServiceKind) (T : Nat) (w : σ) :
    Ends w (t.requireWithin kind T .already)
      (TrackerWorld.setTicket w (TrackerWorld.ticket w + 1)) (.error .cancelled) :=
  (t.ends_waitUntilSynced_already kind T w).bind (.done _ _)

theorem ends_requireContract_already (address : Address) (w : σ) :
    Ends w (t.requireContract address .already)
      (TrackerWorld.setTicket w (TrackerWorld.ticket w + 1)) (.error .cancelled) :=
  (t.ends_requireWithin_already .execution _ w).bind (.done _ _)

theorem ends_waitContract_already (address : Address) (w : σ) :
    Ends w (t.waitContract address .already)
      (TrackerWorld.setTicket w (TrackerWorld.ticket w + 1)) (.error .cancelled) :=
  (t.ends_requireWithin_already .execution 0 w).bind (.done _ _)

/-- Asking for code with a token cancelled already drops the evaluation before its first
probe. -/
theorem ends_hasCode_already (hfree : (t.poll .execution .primary).dropped = id)
    (address : Address) (w : σ) : Ends w (t.hasCode address .already) w (.error .cancelled) := by
  refine Ends.bind (ends_race_done_iff.mpr ⟨?_, rfl⟩) (.done _ _)
  rw [((t.pending_readyRole .execution).bind _).2, hfree]
  rfl

end Tracker

/-! ### A wait cancelled while queued -/

namespace FairLock

variable {l : FairLock} {τ : Nat}

/-- A ticket that asks for a busy lock joins the end of its queue. -/
theorem request_of_tickets_ne_nil (hbusy : l.tickets ≠ []) (τ : Nat) :
    l.request τ = { l with queue := l.queue ++ [τ] } := by
  unfold request
  rw [if_neg]
  intro hfree
  apply hbusy
  obtain ⟨hh, hq⟩ : l.holder = none ∧ l.queue = [] := by simpa using hfree
  simp [tickets, hh, hq]

theorem holder_ne_of_not_mem_tickets (hfresh : τ ∉ l.tickets) : l.holder ≠ some τ := by
  intro hh
  exact hfresh (by simp [tickets, hh])

theorem heldBy_request_of_tickets_ne_nil (hbusy : l.tickets ≠ []) (hfresh : τ ∉ l.tickets) :
    (l.request τ).heldBy τ = false := by
  rw [request_of_tickets_ne_nil hbusy, heldBy]
  simpa using holder_ne_of_not_mem_tickets hfresh

/-- A ticket that queues and leaves again leaves the lock as it found it. -/
theorem request_giveUp_of_tickets_ne_nil (hbusy : l.tickets ≠ []) (hfresh : τ ∉ l.tickets) :
    (l.request τ).giveUp τ = l := by
  have hq : τ ∉ l.queue := fun h => hfresh (by simp [tickets, h])
  rw [request_of_tickets_ne_nil hbusy, giveUp, if_neg (holder_ne_of_not_mem_tickets hfresh)]
  simp [List.erase_append_right _ hq]

end FairLock

/-- A view of the world that taking a ticket, setting a wait lock and moving the clock leave
alone: in a scenario, the records of health, the published snapshot and the nodes. -/
structure TrackerWorld.WaitsKeep {σ ν : Type} [TrackerWorld σ] (view : σ → ν) : Prop where
  setTicket : ∀ w n, view (TrackerWorld.setTicket w n) = view w
  setWaitLock : ∀ w k l, view (TrackerWorld.setWaitLock w k l) = view w
  setNow : ∀ w n, view (VirtualClock.setNow w n) = view w

namespace TrackerWorld.LockLaws

variable {σ : Type} [TrackerWorld σ] (hl : TrackerWorld.LockLaws σ)
include hl

theorem waitLock_setNow (w : σ) (n : Nat) :
    TrackerWorld.waitLock (VirtualClock.setNow w n) = TrackerWorld.waitLock w :=
  congrArg Prod.fst (hl.locks_setNow w n)

theorem ticket_setNow (w : σ) (n : Nat) :
    TrackerWorld.ticket (VirtualClock.setNow w n) = TrackerWorld.ticket w :=
  congrArg Prod.snd (hl.locks_setNow w n)

end TrackerWorld.LockLaws

namespace Tracker

variable {σ : Type} [TrackerWorld σ] (t : Tracker σ) [LawfulClock σ]
  (hl : TrackerWorld.LockLaws σ) (hc : TrackerWorld.ClockLaws σ)

include hl hc in
/-- A wait that finds its lock busy queues, and when its token fires at tick `2 * c + 1` it is
dropped from the queue there. -/
theorem ends_waitUntilSynced_queued_run {kind : ServiceKind} {T c : Nat} {w : σ}
    (hnow : VirtualClock.now w < 2 * c + 1) (hbusy : (TrackerWorld.waitLock w kind).tickets ≠ [])
    (hfresh : TrackerWorld.ticket w ∉ (TrackerWorld.waitLock w kind).tickets) :
    Ends w (t.waitUntilSynced kind T (.firesAt c))
      (leftWait kind (TrackerWorld.ticket w) (VirtualClock.setNow (enteredWait kind w) (2 * c + 1)))
      (.error .cancelled) := by
  have hnow₁ : VirtualClock.now (enteredWait kind w) = VirtualClock.now w := now_enteredWait hc w
  have hqueued : (TrackerWorld.waitLock (enteredWait kind w) kind).heldBy (TrackerWorld.ticket w) =
      false := by
    rw [enteredWait, hl.waitLock_setWaitLock_self, hl.waitLock_setTicket]
    exact FairLock.heldBy_request_of_tickets_ne_nil hbusy hfresh
  rw [waitUntilSynced_eq, freshTicket_bind, ends_read_iff, ends_update_iff, ends_bind_iff]
  refine ⟨_, .inl (), ?_, .done _ _⟩
  unfold race
  simp only [CancelToken.cancelled, waitEvent, firstDone_waitUntilTick, ends_read_iff, ends_bind_iff]
  rw [if_neg (by rw [hc.now_setTicket]; omega)]
  -- the wait asks for the lock, and stays queued until the token fires
  exact ⟨_, _, .update (ends_besideBlocked_forTick_block (hnow₁ ▸ hnow) hqueued (by simp)),
    .update (.done _ _)⟩

include hl hc in
/-- **A wait cancelled while queued changes nothing but its ticket and the clock**: it ends with
`cancelled` when its token fires, both wait locks are as they were, and every view that tickets,
locks and the clock leave alone is as it was. -/
theorem ends_waitUntilSynced_queued {kind : ServiceKind} {T c : Nat} {w : σ}
    (hnow : VirtualClock.now w < 2 * c + 1) (hbusy : (TrackerWorld.waitLock w kind).tickets ≠ [])
    (hfresh : TrackerWorld.ticket w ∉ (TrackerWorld.waitLock w kind).tickets) :
    ∃ w', Ends w (t.waitUntilSynced kind T (.firesAt c)) w' (.error .cancelled) ∧
      TrackerWorld.waitLock w' = TrackerWorld.waitLock w ∧
      TrackerWorld.ticket w' = TrackerWorld.ticket w + 1 ∧ VirtualClock.now w' = 2 * c + 1 ∧
      ∀ {ν : Type} (view : σ → ν), TrackerWorld.WaitsKeep view → view w' = view w := by
  refine ⟨_, t.ends_waitUntilSynced_queued_run hl hc hnow hbusy hfresh, ?_, ?_, ?_, ?_⟩
  · -- the clock moved on while the wait was queued, which leaves the locks alone
    have hset := hl.waitLock_setNow (enteredWait kind w) (2 * c + 1)
    funext k
    by_cases hk : k = kind
    · subst hk
      rw [leftWait, hl.waitLock_setWaitLock_self, hset, enteredWait, hl.waitLock_setWaitLock_self,
        hl.waitLock_setTicket, FairLock.request_giveUp_of_tickets_ne_nil hbusy hfresh]
    · rw [leftWait, hl.waitLock_setWaitLock_of_ne _ _ _ _ hk, hset, enteredWait,
        hl.waitLock_setWaitLock_of_ne _ _ _ _ hk, hl.waitLock_setTicket]
  · rw [leftWait, hl.ticket_setWaitLock, hl.ticket_setNow, enteredWait,
      hl.ticket_setWaitLock, hl.ticket_setTicket]
  · rw [now_leftWait hc, LawfulClock.now_setNow]
  · intro ν view hv
    rw [leftWait, hv.setWaitLock, hv.setNow, enteredWait, hv.setWaitLock, hv.setTicket]

end Tracker

/-! ### A token that fires before the build completes -/

namespace Manager

variable {σ D N : Type} [TrackerWorld σ] [LawfulClock σ] (m : Manager σ D N)
  (hk : m.Keeps VirtualClock.now)

include hk

/-- A snapshot whose build ends before the token fires is the build's own. -/
theorem ends_stateAt_firesAt_of_lt {target : BuildTarget} {c : Nat} {w w₁ : σ}
    {b : Except StateError (Snapshot D N)} (h : Ends w (m.build target .all) w₁ b)
    (hT : VirtualClock.now w₁ < 2 * c + 1) : Ends w (m.stateAt target (.firesAt c)) w₁ b :=
  ends_cancellable_firesAt_of_lt (hk.build target .all) h hT

theorem exists_ends_stateAt_cancelled {target : BuildTarget} {c : Nat} {w w₁ : σ}
    {b : Except StateError (Snapshot D N)} (h : Ends w (m.build target .all) w₁ b)
    (hT : 2 * c + 1 ≤ VirtualClock.now w₁) :
    ∃ w', Ends w (m.stateAt target (.firesAt c)) w' (.error .cancelled) :=
  exists_ends_cancellable_firesAt_of_le (hk.build target .all) h hT

/-- **A build that would complete after its token fired is cancelled**, and publishes nothing. -/
theorem exists_ends_buildAndPublish_cancelled {target : BuildTarget} {filter : EntityFilter}
    {c : Nat} {w w₁ : σ} {b : Except StateError (Snapshot D N)}
    (h : Ends w (m.build target filter) w₁ b) (hT : 2 * c + 1 ≤ VirtualClock.now w₁) :
    ∃ w', Ends w (m.buildAndPublish target filter (.firesAt c)) w' (.error .cancelled) := by
  obtain ⟨w', h'⟩ := exists_ends_cancellable_firesAt_of_le (hk.build target filter) h hT
  exact ⟨w', h'.bind (.done _ _)⟩

end Manager

/-! ### Everything together -/

/-- **Cancellation comes first and changes nothing.** With a token cancelled already, every
operation of the manager ends with `cancelled` in the world it was called in, and every wait and
gate of the tracker ends with `cancelled` having only taken its ticket. A wait whose token fires
while it is queued for its lock ends with `cancelled`, with both locks as they were and every view
that tickets, locks and the clock leave alone untouched. A build that would complete after its
token fired gives `cancelled`, not its snapshot. Here probes that have not started hold nothing, and
what the manager runs keeps the clock. -/
theorem cancellation_comes_first {σ D N : Type} [TrackerWorld σ] [LawfulClock σ]
    (hl : TrackerWorld.LockLaws σ) (hc : TrackerWorld.ClockLaws σ) (m : Manager σ D N)
    (hfree : ∀ kind, (m.tracker.poll kind .primary).dropped = id) (hk : m.Keeps VirtualClock.now) :
    (∀ w fromSlot, Ends w (m.latestProposedBlock fromSlot .already) w (.error .cancelled)) ∧
    (∀ w, Ends w (m.latestBeaconBlock .already) w (.error .cancelled)) ∧
    (∀ w, Ends w (m.latestFinalizedBeaconBlock .already) w (.error .cancelled)) ∧
    (∀ w target, Ends w (m.stateAt target .already) w (.error .cancelled)) ∧
    (∀ w target filter, Ends w (m.buildAndPublish target filter .already) w (.error .cancelled)) ∧
    (∀ w kind T, Ends w (m.tracker.waitUntilSynced kind T .already)
      (TrackerWorld.setTicket w (TrackerWorld.ticket w + 1)) (.error .cancelled)) ∧
    (∀ w kind, Ends w (m.tracker.requireSynced kind .already)
      (TrackerWorld.setTicket w (TrackerWorld.ticket w + 1)) (.error .cancelled)) ∧
    (∀ w kind, Ends w (m.tracker.waitSynced kind .already)
      (TrackerWorld.setTicket w (TrackerWorld.ticket w + 1)) (.error .cancelled)) ∧
    (∀ w address, Ends w (m.tracker.requireContract address .already)
      (TrackerWorld.setTicket w (TrackerWorld.ticket w + 1)) (.error .cancelled)) ∧
    (∀ w address, Ends w (m.tracker.waitContract address .already)
      (TrackerWorld.setTicket w (TrackerWorld.ticket w + 1)) (.error .cancelled)) ∧
    (∀ w address, Ends w (m.tracker.hasCode address .already) w (.error .cancelled)) ∧
    (∀ w kind T c, VirtualClock.now w < 2 * c + 1 → (TrackerWorld.waitLock w kind).tickets ≠ [] →
      TrackerWorld.ticket w ∉ (TrackerWorld.waitLock w kind).tickets →
      ∃ w', Ends w (m.tracker.waitUntilSynced kind T (.firesAt c)) w' (.error .cancelled) ∧
        TrackerWorld.waitLock w' = TrackerWorld.waitLock w ∧
        TrackerWorld.ticket w' = TrackerWorld.ticket w + 1 ∧ VirtualClock.now w' = 2 * c + 1 ∧
        ∀ {ν : Type} (view : σ → ν), TrackerWorld.WaitsKeep view → view w' = view w) ∧
    (∀ w w₁ target c b, Ends w (m.build target .all) w₁ b → 2 * c + 1 ≤ VirtualClock.now w₁ →
      ∃ w', Ends w (m.stateAt target (.firesAt c)) w' (.error .cancelled)) ∧
    (∀ w w₁ target filter c b, Ends w (m.build target filter) w₁ b →
      2 * c + 1 ≤ VirtualClock.now w₁ →
      ∃ w', Ends w (m.buildAndPublish target filter (.firesAt c)) w' (.error .cancelled)) :=
  ⟨fun w s => m.ends_latestProposedBlock_already hfree s w,
    m.ends_latestBeaconBlock_already hfree,
    m.ends_latestFinalizedBeaconBlock_already hfree,
    fun w target => m.ends_stateAt_already hfree target w,
    fun w target filter => m.ends_buildAndPublish_already hfree target filter w,
    fun w kind T => m.tracker.ends_waitUntilSynced_already kind T w,
    fun w kind => m.tracker.ends_requireWithin_already kind _ w,
    fun w kind => m.tracker.ends_requireWithin_already kind 0 w,
    fun w address => m.tracker.ends_requireContract_already address w,
    fun w address => m.tracker.ends_waitContract_already address w,
    fun w address => m.tracker.ends_hasCode_already (hfree .execution) address w,
    fun _ _ _ _ hnow hbusy hfresh => m.tracker.ends_waitUntilSynced_queued hl hc hnow hbusy hfresh,
    fun _ _ _ _ _ h hT => m.exists_ends_stateAt_cancelled hk h hT,
    fun _ _ _ _ _ _ h hT => m.exists_ends_buildAndPublish_cancelled hk h hT⟩

/-- A world of one block whose execution lock is held by the wait with the first ticket. -/
def World.waitInProgress : World :=
  { World.oneBlock with executionLock := { holder := some 0 }, tickets := 1 }

/-- In a scenario, a second wait on the execution node, queued behind the first and cancelled at
five milliseconds, leaves the locks as they were; a build cancelled already publishes nothing. -/
theorem queued_wait_in_scenario_is_cancelled :
    let m := World.managerOf (World.oneBlock.tracker {} 0) World.emptyManager
    let w := World.waitInProgress
    (∀ kind, (m.tracker.poll kind .primary).dropped = id) ∧ m.Keeps VirtualClock.now ∧
      Ends w (m.buildAndPublish .head .all .already) w (.error .cancelled) ∧
      ∃ w', Ends w (m.tracker.waitUntilSynced .execution 1000 (.firesAt 5)) w' (.error .cancelled) ∧
        TrackerWorld.waitLock w' = TrackerWorld.waitLock w ∧
        TrackerWorld.ticket w' = TrackerWorld.ticket w + 1 ∧ VirtualClock.now w' = 2 * 5 + 1 ∧
        ∀ {ν : Type} (view : World → ν), TrackerWorld.WaitsKeep view → view w' = view w := by
  intro m w
  have hfree : ∀ kind, (m.tracker.poll kind .primary).dropped = id := by
    intro kind
    cases kind <;> rfl
  have hk : m.Keeps VirtualClock.now :=
    { tracker := World.tracker_keeps_now _ _ _
      fetcher := accountFetcher_keeps _
      freshId := .read fun _ => .update (fun _ => rfl) (.done trivial) }
  obtain ⟨-, -, -, -, hpublish, -, -, -, -, -, -, hqueued, -, -⟩ :=
    cancellation_comes_first World.lockLaws World.clockLaws m hfree hk
  exact ⟨hfree, hk, hpublish w .head .all,
    hqueued w .execution 1000 5 (by decide) (by decide) (by decide)⟩

end ChainWatch
