import Mathlib.Logic.Relation
import ChainWatch.Proofs.Fiber.Pool
import ChainWatch.Proofs.State.Frame

/-!
# The protocol of the wait locks

A wait on a service takes a fresh ticket, queues it for the service's lock, goes past the lock
once its ticket holds it, and gives the lock up when it ends or is dropped. Nothing in the world
says where a task stands in this; `LockPhase` says it, as ghost state: `idle` (no ticket),
`ticketed`, `queued` for the lock of a service, or `inside` it.

`LockMove` lists what a task may do to the locks and the tickets from each phase: work that
leaves them alone (only outside any wait or inside a lock), take the next ticket, queue it, go
past the lock once the ticket holds it, give the lock up, or forget a ticket never queued.
`LockInv` is the invariant over the phases of all tasks, and every move keeps it
(`LockInv.move`): each phase fits the world, no two tasks hold one ticket, no lock holds a
ticket twice, and every ticket in a lock is that of a task queued for it or inside it. So at
most one task is inside the lock of a service (`LockInv.inside_unique`).

`LockSafe post φ w p` says that `p`, run from `w` by a task in phase `φ`, makes only such moves,
also when it is dropped while it waits. It is read off the shape of the fiber like
`Fiber.Framed`, and it is closed under what the waits are made of: `LockSafe.bind`, a race
against a fiber that changes nothing (`LockSafe.race`), work that keeps the locks outside any
wait (`LockSafe.of_framed`) or inside a lock (`LockSafe.releasing`), `LockSafe.holding` and
`LockSafe.freshTicket`.

A pool of tasks that follow the protocol keeps the invariant along every run, whatever the
order of the turns (`LockState.run`).
-/

namespace ChainWatch

namespace FairLock

/-- The tickets in a lock: its holder, then those who wait, in order. -/
def tickets (l : FairLock) : List Nat := l.holder.toList ++ l.queue

variable {l : FairLock} {τ x : Nat}

theorem mem_tickets_request : x ∈ (l.request τ).tickets ↔ x ∈ l.tickets ∨ x = τ := by
  unfold request tickets
  split
  · -- a free lock nobody waits for is taken at once
    rename_i h
    obtain ⟨hh, hq⟩ : l.holder = none ∧ l.queue = [] := by simpa using h
    simp [hh, hq]
  · simp [or_assoc]

theorem nodup_request (hl : l.tickets.Nodup) (hτ : τ ∉ l.tickets) : (l.request τ).tickets.Nodup := by
  unfold request
  split
  · simp [tickets]
  · have h : ({ l with queue := l.queue ++ [τ] } : FairLock).tickets = l.tickets ++ [τ] := by
      simp [tickets]
    rw [h, List.nodup_append]
    refine ⟨hl, by simp, fun a ha b hb => ?_⟩
    rw [List.mem_singleton.mp hb]
    rintro rfl
    exact hτ ha

theorem holder_request (h : l.holder = some x) : (l.request τ).holder = some x := by
  unfold request
  rw [if_neg (by simp [h])]
  exact h

/-- Giving up a ticket takes it out of the lock, the first waiter taking the holder's place. -/
theorem tickets_giveUp (l : FairLock) (τ : Nat) : (l.giveUp τ).tickets = l.tickets.erase τ := by
  unfold giveUp tickets
  split
  · rename_i h
    rw [h]
    cases l.queue <;> simp
  · rename_i h
    cases hh : l.holder with
    | none => simp
    | some y =>
      have hy : ¬(y == τ) = true := by
        rw [hh] at h
        simpa using h
      simp [List.erase_cons_tail hy]

theorem holder_giveUp_of_ne (h : l.holder = some x) (hne : x ≠ τ) : (l.giveUp τ).holder = some x := by
  unfold giveUp
  rw [if_neg (by rw [h]; exact fun e => hne (Option.some.inj e))]
  exact h

end FairLock

/-- Where a task stands with the wait locks. -/
inductive LockPhase where
  /-- Holds no ticket. -/
  | idle
  /-- Holds a fresh ticket it has not queued. -/
  | ticketed (ticket : Nat)
  /-- Has queued its ticket for the lock of `kind`, and not gone past it. -/
  | queued (kind : ServiceKind) (ticket : Nat)
  /-- Has gone past the lock of `kind`, and not given it up. -/
  | inside (kind : ServiceKind) (ticket : Nat)
  deriving DecidableEq

namespace LockPhase

/-- The ticket a task holds. -/
def ticket? : LockPhase → Option Nat
  | idle => none
  | ticketed τ => some τ
  | queued _ τ => some τ
  | inside _ τ => some τ

/-- Whether a task may work on things other than the locks: outside any wait, or inside a lock. -/
def works : LockPhase → Bool
  | idle => true
  | inside _ _ => true
  | _ => false

end LockPhase

section Protocol

variable {σ : Type} [TrackerWorld σ]

/-- The wait locks of a world and its counter of tickets. -/
def TrackerWorld.locks (w : σ) : (ServiceKind → FairLock) × Nat :=
  (TrackerWorld.waitLock w, TrackerWorld.ticket w)

/-- How a world keeps its wait locks and tickets: setting the lock of a service sets that lock
only, setting the counter sets it, and moving time leaves both alone. -/
structure TrackerWorld.LockLaws (σ : Type) [TrackerWorld σ] : Prop where
  waitLock_setWaitLock_self : ∀ (w : σ) k l,
    TrackerWorld.waitLock (TrackerWorld.setWaitLock w k l) k = l
  waitLock_setWaitLock_of_ne : ∀ (w : σ) k k' l, k' ≠ k →
    TrackerWorld.waitLock (TrackerWorld.setWaitLock w k l) k' = TrackerWorld.waitLock w k'
  ticket_setWaitLock : ∀ (w : σ) k l,
    TrackerWorld.ticket (TrackerWorld.setWaitLock w k l) = TrackerWorld.ticket w
  waitLock_setTicket : ∀ (w : σ) n,
    TrackerWorld.waitLock (TrackerWorld.setTicket w n) = TrackerWorld.waitLock w
  ticket_setTicket : ∀ (w : σ) n, TrackerWorld.ticket (TrackerWorld.setTicket w n) = n
  locks_setNow : ∀ (w : σ) n, TrackerWorld.locks (VirtualClock.setNow w n) = TrackerWorld.locks w

/-- What a phase says of the world: a held ticket was handed out, a queued one is in its lock,
and the lock of a task inside is held by its ticket. -/
def LockPhase.Fits (w : σ) : LockPhase → Prop
  | .idle => True
  | .ticketed τ => τ < TrackerWorld.ticket w
  | .queued k τ => τ < TrackerWorld.ticket w ∧ τ ∈ (TrackerWorld.waitLock w k).tickets
  | .inside k τ => τ < TrackerWorld.ticket w ∧ (TrackerWorld.waitLock w k).holder = some τ

/-- One move of a task with the wait locks. -/
inductive LockMove : LockPhase × σ → LockPhase × σ → Prop
  /-- Work that leaves the locks and the tickets alone, outside any wait or inside a lock. -/
  | work {φ : LockPhase} {w w' : σ} : φ.works = true →
      TrackerWorld.locks w' = TrackerWorld.locks w → LockMove (φ, w) (φ, w')
  /-- Taking the next ticket. -/
  | take {w w' : σ} : TrackerWorld.waitLock w' = TrackerWorld.waitLock w →
      TrackerWorld.ticket w' = TrackerWorld.ticket w + 1 →
      LockMove (.idle, w) (.ticketed (TrackerWorld.ticket w), w')
  /-- Queueing the ticket for the lock of a service. -/
  | request {k : ServiceKind} {τ : Nat} {w w' : σ} :
      TrackerWorld.waitLock w' k = (TrackerWorld.waitLock w k).request τ →
      (∀ k', k' ≠ k → TrackerWorld.waitLock w' k' = TrackerWorld.waitLock w k') →
      TrackerWorld.ticket w' = TrackerWorld.ticket w →
      LockMove (.ticketed τ, w) (.queued k τ, w')
  /-- Going past the lock, once the ticket holds it. -/
  | enter {k : ServiceKind} {τ : Nat} {w : σ} : (TrackerWorld.waitLock w k).holder = some τ →
      LockMove (.queued k τ, w) (.inside k τ, w)
  /-- Giving the lock up, from its queue or from inside. -/
  | giveUp {φ : LockPhase} {k : ServiceKind} {τ : Nat} {w w' : σ} :
      (φ = .queued k τ ∨ φ = .inside k τ) →
      TrackerWorld.waitLock w' k = (TrackerWorld.waitLock w k).giveUp τ →
      (∀ k', k' ≠ k → TrackerWorld.waitLock w' k' = TrackerWorld.waitLock w k') →
      TrackerWorld.ticket w' = TrackerWorld.ticket w →
      LockMove (φ, w) (.idle, w')
  /-- Dropping a ticket never queued. -/
  | forget {τ : Nat} {w : σ} : LockMove (.ticketed τ, w) (.idle, w)

/-- Moves of a task, one after another. -/
abbrev LockMoves : LockPhase × σ → LockPhase × σ → Prop := Relation.ReflTransGen LockMove

/-- The invariant of the wait locks over the phases of all tasks. -/
structure LockInv (w : σ) (phases : List LockPhase) : Prop where
  fits : ∀ (i : Nat) (φ : LockPhase), phases[i]? = some φ → φ.Fits w
  /-- No two tasks hold one ticket. -/
  distinct : ∀ (i j τ : Nat), (phases[i]?.bind LockPhase.ticket?) = some τ →
    (phases[j]?.bind LockPhase.ticket?) = some τ → i = j
  nodup : ∀ k, (TrackerWorld.waitLock w k).tickets.Nodup
  /-- Every ticket in a lock is that of a task queued for it or inside it. -/
  owned : ∀ (k : ServiceKind) (τ : Nat), τ ∈ (TrackerWorld.waitLock w k).tickets →
    ∃ j : Nat, phases[j]? = some (LockPhase.queued k τ) ∨ phases[j]? = some (LockPhase.inside k τ)

namespace LockPhase

variable {w w' : σ} {φ : LockPhase} {τ : Nat}

theorem fits_congr (hl : TrackerWorld.waitLock w' = TrackerWorld.waitLock w)
    (ht : TrackerWorld.ticket w' = TrackerWorld.ticket w) (φ : LockPhase) : φ.Fits w' ↔ φ.Fits w := by
  cases φ <;> simp only [Fits, hl, ht]

/-- A phase fits a world with more tickets handed out and the same locks. -/
theorem Fits.of_ticket_le (hl : TrackerWorld.waitLock w' = TrackerWorld.waitLock w)
    (ht : TrackerWorld.ticket w ≤ TrackerWorld.ticket w') (h : φ.Fits w) : φ.Fits w' := by
  cases φ with
  | idle => trivial
  | ticketed _ => exact Nat.lt_of_lt_of_le h ht
  | queued k _ =>
    rw [Fits, hl]
    exact ⟨Nat.lt_of_lt_of_le h.1 ht, h.2⟩
  | inside k _ =>
    rw [Fits, hl]
    exact ⟨Nat.lt_of_lt_of_le h.1 ht, h.2⟩

/-- Every ticket a task holds was handed out. -/
theorem Fits.ticket_lt (h : φ.Fits w) (hτ : φ.ticket? = some τ) : τ < TrackerWorld.ticket w := by
  cases φ with
  | idle => cases hτ
  | ticketed _ =>
    cases hτ
    exact h
  | queued _ _ =>
    cases hτ
    exact h.1
  | inside _ _ =>
    cases hτ
    exact h.1

/-- A phase that holds another ticket than `τ` fits a world whose locks keep every ticket but
`τ` where it was. -/
theorem Fits.of_keeps_others (ht : TrackerWorld.ticket w' = TrackerWorld.ticket w)
    (hmem : ∀ k x, x ≠ τ → x ∈ (TrackerWorld.waitLock w k).tickets →
      x ∈ (TrackerWorld.waitLock w' k).tickets)
    (hheld : ∀ k x, x ≠ τ → (TrackerWorld.waitLock w k).holder = some x →
      (TrackerWorld.waitLock w' k).holder = some x)
    (hne : ∀ x, φ.ticket? = some x → x ≠ τ) (h : φ.Fits w) : φ.Fits w' := by
  cases φ with
  | idle => trivial
  | ticketed _ =>
    show _ < _
    rw [ht]
    exact h
  | queued k x => exact ⟨ht ▸ h.1, hmem k x (hne x rfl) h.2⟩
  | inside k x => exact ⟨ht ▸ h.1, hheld k x (hne x rfl) h.2⟩

end LockPhase

namespace LockInv

variable {w w' : σ} {phases : List LockPhase} {i : Nat} {φ ψ : LockPhase}

/-- The owner of a ticket in a lock is task `i`, in phase `φ`, or another task. -/
theorem owner (h : LockInv w phases) (hi : phases[i]? = some φ) {k : ServiceKind} {τ : Nat}
    (hτ : τ ∈ (TrackerWorld.waitLock w k).tickets) :
    (φ = .queued k τ ∨ φ = .inside k τ) ∨
      ∃ j, j ≠ i ∧ (phases[j]? = some (.queued k τ) ∨ phases[j]? = some (.inside k τ)) := by
  obtain ⟨j, hj⟩ := h.owned k τ hτ
  by_cases hji : j = i
  · subst hji
    left
    rcases hj with hj | hj
    · exact .inl (Option.some.inj (hi.symm.trans hj))
    · exact .inr (Option.some.inj (hi.symm.trans hj))
  · exact .inr ⟨j, hji, hj⟩

/-- A task that holds no place in a lock owns none of its tickets. -/
theorem owner_other (h : LockInv w phases) (hi : phases[i]? = some φ)
    (hφ : ∀ k τ, φ ≠ .queued k τ ∧ φ ≠ .inside k τ) {k : ServiceKind} {τ : Nat}
    (hτ : τ ∈ (TrackerWorld.waitLock w k).tickets) :
    ∃ j, j ≠ i ∧ (phases[j]? = some (.queued k τ) ∨ phases[j]? = some (.inside k τ)) := by
  rcases h.owner hi hτ with hq | hj
  · rcases hq with hq | hq
    · exact absurd hq (hφ k τ).1
    · exact absurd hq (hφ k τ).2
  · exact hj

/-- Another task holds another ticket than task `i`. -/
theorem ticket_ne (h : LockInv w phases) (hi : phases[i]? = some φ) {j : Nat} (hji : j ≠ i)
    {τ τ' : Nat} (hτ : φ.ticket? = some τ) (hτ' : (phases[j]?.bind LockPhase.ticket?) = some τ') :
    τ' ≠ τ := by
  rintro rfl
  exact hji (h.distinct j i τ' hτ' (by rw [hi]; exact hτ))

/-- **The invariant after task `i` moves to `ψ`**, from what the move does to the world: `ψ`
fits it, the others still fit it, `ψ` holds no ticket of another task, no lock holds a ticket
twice, and every ticket in a lock is owned by `ψ` or by another task. -/
theorem set (h : LockInv w phases) (hi : phases[i]? = some φ) (hψ : ψ.Fits w')
    (hfits : ∀ j φ', j ≠ i → phases[j]? = some φ' → φ'.Fits w')
    (hticket : ∀ j τ, j ≠ i → (phases[j]?.bind LockPhase.ticket?) = some τ → ψ.ticket? ≠ some τ)
    (hnodup : ∀ k, (TrackerWorld.waitLock w' k).tickets.Nodup)
    (howned : ∀ k τ, τ ∈ (TrackerWorld.waitLock w' k).tickets →
      (ψ = .queued k τ ∨ ψ = .inside k τ) ∨
        ∃ j, j ≠ i ∧ (phases[j]? = some (.queued k τ) ∨ phases[j]? = some (.inside k τ))) :
    LockInv w' (phases.set i ψ) := by
  have hlt : i < phases.length := (List.getElem?_eq_some_iff.mp hi).1
  have hget : ∀ j, (phases.set i ψ)[j]? = if j = i then some ψ else phases[j]? := by
    intro j
    by_cases hj : j = i
    · rw [if_pos hj, hj, List.getElem?_set_self hlt]
    · rw [if_neg hj, List.getElem?_set_ne (Ne.symm hj)]
  refine ⟨fun j φ' hj => ?_, fun a b τ ha hb => ?_, hnodup, fun k τ hτ => ?_⟩
  · rw [hget] at hj
    by_cases hji : j = i
    · rw [if_pos hji] at hj
      cases hj
      exact hψ
    · rw [if_neg hji] at hj
      exact hfits j φ' hji hj
  · rw [hget] at ha hb
    by_cases hai : a = i <;> by_cases hbi : b = i
    · rw [hai, hbi]
    · rw [if_pos hai] at ha
      rw [if_neg hbi] at hb
      exact absurd ha (hticket b τ hbi hb)
    · rw [if_neg hai] at ha
      rw [if_pos hbi] at hb
      exact absurd hb (hticket a τ hai ha)
    · rw [if_neg hai] at ha
      rw [if_neg hbi] at hb
      exact h.distinct a b τ ha hb
  · rcases howned k τ hτ with hq | ⟨j, hji, hj⟩
    · refine ⟨i, ?_⟩
      rw [hget, if_pos rfl]
      rcases hq with rfl | rfl
      · exact .inl rfl
      · exact .inr rfl
    · refine ⟨j, ?_⟩
      rw [hget, if_neg hji]
      exact hj

/-- Work that leaves the locks alone keeps the invariant. -/
theorem work (h : LockInv w phases) (hi : phases[i]? = some φ)
    (hl : TrackerWorld.locks w' = TrackerWorld.locks w) : LockInv w' (phases.set i φ) := by
  have hw : TrackerWorld.waitLock w' = TrackerWorld.waitLock w := congrArg Prod.fst hl
  have ht : TrackerWorld.ticket w' = TrackerWorld.ticket w := congrArg Prod.snd hl
  refine h.set hi ((LockPhase.fits_congr hw ht φ).mpr (h.fits i φ hi))
    (fun j φ' _ hj => (LockPhase.fits_congr hw ht φ').mpr (h.fits j φ' hj))
    (fun j τ hji hj hτ => h.ticket_ne hi hji hτ hj rfl) (fun k => by rw [hw]; exact h.nodup k)
    (fun k τ hτ => ?_)
  rw [hw] at hτ
  exact h.owner hi hτ

/-- Taking the next ticket keeps the invariant: no task holds it yet. -/
theorem take (h : LockInv w phases) (hi : phases[i]? = some .idle)
    (hl : TrackerWorld.waitLock w' = TrackerWorld.waitLock w)
    (ht : TrackerWorld.ticket w' = TrackerWorld.ticket w + 1) :
    LockInv w' (phases.set i (.ticketed (TrackerWorld.ticket w))) := by
  have hle : TrackerWorld.ticket w ≤ TrackerWorld.ticket w' := by omega
  refine h.set hi (by show TrackerWorld.ticket w < TrackerWorld.ticket w'; omega)
    (fun j φ' _ hj => (h.fits j φ' hj).of_ticket_le hl hle) (fun j τ hji hj hτ => ?_)
    (fun k => by rw [hl]; exact h.nodup k) (fun k τ hτ => ?_)
  · -- every ticket held is older than the one taken
    cases hτ
    obtain ⟨φ', hφ', hτ'⟩ := Option.bind_eq_some_iff.mp hj
    exact Nat.lt_irrefl _ ((h.fits j φ' hφ').ticket_lt hτ')
  · rw [hl] at hτ
    exact .inr (h.owner_other hi (fun _ _ => ⟨nofun, nofun⟩) hτ)

/-- Queueing a ticket keeps the invariant: no lock held it before. -/
theorem request (h : LockInv w phases) {τ : Nat} (hi : phases[i]? = some (.ticketed τ))
    {k : ServiceKind} (hk : TrackerWorld.waitLock w' k = (TrackerWorld.waitLock w k).request τ)
    (hother : ∀ k', k' ≠ k → TrackerWorld.waitLock w' k' = TrackerWorld.waitLock w k')
    (ht : TrackerWorld.ticket w' = TrackerWorld.ticket w) :
    LockInv w' (phases.set i (.queued k τ)) := by
  -- the ticket is in no lock: its owner would be another task holding it
  have hfree : ∀ k', τ ∉ (TrackerWorld.waitLock w k').tickets := by
    intro k' hτ
    obtain ⟨j, hji, hj⟩ := h.owner_other hi (fun _ _ => ⟨nofun, nofun⟩) hτ
    rcases hj with hj | hj <;> exact h.ticket_ne hi hji rfl (by rw [hj]; rfl) rfl
  have hτ : τ < TrackerWorld.ticket w := h.fits i _ hi
  refine h.set hi ⟨ht ▸ hτ, by rw [hk]; exact FairLock.mem_tickets_request.mpr (.inr rfl)⟩
    (fun j φ' hji hj => ?_) (fun j τ' hji hj hτ' => h.ticket_ne hi hji hτ' hj rfl)
    (fun k' => ?_) (fun k' x hx => ?_)
  · -- the others keep their places: queueing only adds to the end of a lock
    refine (h.fits j φ' hj).of_keeps_others ht (fun k' x _ hx => ?_) (fun k' x _ hx => ?_)
      (fun x hx => h.ticket_ne hi hji rfl (by rw [hj]; exact hx))
    · by_cases hkk : k' = k
      · subst hkk
        rw [hk]
        exact FairLock.mem_tickets_request.mpr (.inl hx)
      · rw [hother k' hkk]
        exact hx
    · by_cases hkk : k' = k
      · subst hkk
        rw [hk]
        exact FairLock.holder_request hx
      · rw [hother k' hkk]
        exact hx
  · by_cases hkk : k' = k
    · subst hkk
      rw [hk]
      exact FairLock.nodup_request (h.nodup k') (hfree k')
    · rw [hother k' hkk]
      exact h.nodup k'
  · by_cases hkk : k' = k
    · subst hkk
      rw [hk] at hx
      rcases FairLock.mem_tickets_request.mp hx with hx | rfl
      · exact .inr (h.owner_other hi (fun _ _ => ⟨nofun, nofun⟩) hx)
      · exact .inl (.inl rfl)
    · rw [hother k' hkk] at hx
      exact .inr (h.owner_other hi (fun _ _ => ⟨nofun, nofun⟩) hx)

/-- Going past the lock keeps the invariant: the ticket holds it. -/
theorem enter (h : LockInv w phases) {k : ServiceKind} {τ : Nat}
    (hi : phases[i]? = some (.queued k τ)) (hh : (TrackerWorld.waitLock w k).holder = some τ) :
    LockInv w (phases.set i (.inside k τ)) := by
  refine h.set hi ⟨(h.fits i _ hi).1, hh⟩ (fun j φ' _ hj => h.fits j φ' hj)
    (fun j τ' hji hj hτ' => h.ticket_ne hi hji hτ' hj rfl) h.nodup (fun k' x hx => ?_)
  rcases h.owner hi hx with hq | hj
  · rcases hq with hq | hq
    · cases hq
      exact .inl (.inr rfl)
    · cases hq
  · exact .inr hj

/-- Giving the lock up keeps the invariant: the ticket leaves the lock, and every other ticket
stays. -/
theorem giveUp (h : LockInv w phases) {k : ServiceKind} {τ : Nat} (hi : phases[i]? = some φ)
    (hφ : φ = .queued k τ ∨ φ = .inside k τ)
    (hk : TrackerWorld.waitLock w' k = (TrackerWorld.waitLock w k).giveUp τ)
    (hother : ∀ k', k' ≠ k → TrackerWorld.waitLock w' k' = TrackerWorld.waitLock w k')
    (ht : TrackerWorld.ticket w' = TrackerWorld.ticket w) :
    LockInv w' (phases.set i .idle) := by
  have hτ : φ.ticket? = some τ := by rcases hφ with rfl | rfl <;> rfl
  have hmem : ∀ {x}, x ∈ (TrackerWorld.waitLock w' k).tickets ↔
      x ≠ τ ∧ x ∈ (TrackerWorld.waitLock w k).tickets := by
    intro x
    rw [hk, FairLock.tickets_giveUp]
    exact (h.nodup k).mem_erase_iff
  refine h.set hi trivial (fun j φ' hji hj => ?_) (fun _ _ _ _ => nofun) (fun k' => ?_)
    (fun k' x hx => ?_)
  · -- the ticket of every other task is another ticket, so it keeps its place
    refine (h.fits j φ' hj).of_keeps_others ht (fun k' x hxτ hx => ?_) (fun k' x hxτ hx => ?_)
      (fun x hx => h.ticket_ne hi hji hτ (by rw [hj]; exact hx))
    · by_cases hkk : k' = k
      · subst hkk
        exact hmem.mpr ⟨hxτ, hx⟩
      · rw [hother k' hkk]
        exact hx
    · by_cases hkk : k' = k
      · subst hkk
        rw [hk]
        exact FairLock.holder_giveUp_of_ne hx hxτ
      · rw [hother k' hkk]
        exact hx
  · by_cases hkk : k' = k
    · subst hkk
      rw [hk, FairLock.tickets_giveUp]
      exact (h.nodup k').erase τ
    · rw [hother k' hkk]
      exact h.nodup k'
  · -- what is left in the locks belongs to the other tasks
    have hx' : x ∈ (TrackerWorld.waitLock w k').tickets ∧ (k' = k → x ≠ τ) := by
      by_cases hkk : k' = k
      · subst hkk
        exact ⟨(hmem.mp hx).2, fun _ => (hmem.mp hx).1⟩
      · rw [hother k' hkk] at hx
        exact ⟨hx, fun e => absurd e hkk⟩
    rcases h.owner hi hx'.1 with hq | hj
    · exfalso
      rcases hφ with rfl | rfl <;> rcases hq with hq | hq <;> cases hq <;> exact hx'.2 rfl rfl
    · exact .inr hj

/-- Forgetting a ticket never queued keeps the invariant. -/
theorem forget (h : LockInv w phases) {τ : Nat} (hi : phases[i]? = some (.ticketed τ)) :
    LockInv w (phases.set i .idle) := by
  refine h.set hi trivial (fun j φ' _ hj => h.fits j φ' hj) (fun _ _ _ _ => nofun) h.nodup
    fun k x hx => .inr (h.owner_other hi (fun _ _ => ⟨nofun, nofun⟩) hx)

/-- **Every move keeps the invariant.** -/
theorem move (h : LockInv w phases) (hi : phases[i]? = some φ) (hm : LockMove (φ, w) (ψ, w')) :
    LockInv w' (phases.set i ψ) := by
  cases hm with
  | work _ hl => exact h.work hi hl
  | take hl ht => exact h.take hi hl ht
  | request hk hother ht => exact h.request hi hk hother ht
  | enter hh => exact h.enter hi hh
  | giveUp hφ hk hother ht => exact h.giveUp hi hφ hk hother ht
  | forget => exact h.forget hi

theorem moves (h : LockInv w phases) (hi : phases[i]? = some φ) (hm : LockMoves (φ, w) (ψ, w')) :
    LockInv w' (phases.set i ψ) := by
  have hlt : i < phases.length := (List.getElem?_eq_some_iff.mp hi).1
  -- the moves go one at a time, task `i` in each phase along them
  have hall : ∀ {b : LockPhase × σ}, LockMoves (φ, w) b → LockInv b.2 (phases.set i b.1) := by
    intro b hb
    induction hb with
    | refl =>
      obtain ⟨_, rfl⟩ := List.getElem?_eq_some_iff.mp hi
      rw [List.set_getElem_self hlt]
      exact h
    | @tail b c _ hm ih =>
      have hc := ih.move (List.getElem?_set_self hlt) hm
      rw [List.set_set] at hc
      exact hc
  exact hall hm

/-- **At most one task is inside the lock of a service.** -/
theorem inside_unique (h : LockInv w phases) {i j : Nat} {k : ServiceKind} {τ τ' : Nat}
    (hi : phases[i]? = some (.inside k τ)) (hj : phases[j]? = some (.inside k τ')) : i = j := by
  have hτ : (TrackerWorld.waitLock w k).holder = some τ := (h.fits i _ hi).2
  have hτ' : (TrackerWorld.waitLock w k).holder = some τ' := (h.fits j _ hj).2
  obtain rfl : τ = τ' := Option.some.inj (hτ.symm.trans hτ')
  exact h.distinct i j τ (by rw [hi]; rfl) (by rw [hj]; rfl)

end LockInv

/-- Moving the world along without touching the locks keeps the invariant. -/
theorem LockInv.of_locks {w w' : σ} {phases : List LockPhase} (h : LockInv w phases)
    (hl : TrackerWorld.locks w' = TrackerWorld.locks w) : LockInv w' phases := by
  have hw : TrackerWorld.waitLock w' = TrackerWorld.waitLock w := congrArg Prod.fst hl
  have ht : TrackerWorld.ticket w' = TrackerWorld.ticket w := congrArg Prod.snd hl
  refine ⟨fun j φ hj => (LockPhase.fits_congr hw ht φ).mpr (h.fits j φ hj), h.distinct,
    fun k => ?_, fun k τ hτ => ?_⟩
  · rw [hw]
    exact h.nodup k
  · rw [hw] at hτ
    exact h.owned k τ hτ

/-- The move of giving the lock of `k` up for ticket `τ`. -/
theorem TrackerWorld.LockLaws.giveUp_move (hl : TrackerWorld.LockLaws σ) {φ : LockPhase}
    {k : ServiceKind} {τ : Nat} (hφ : φ = .queued k τ ∨ φ = .inside k τ) (w : σ) :
    LockMove (φ, w) (.idle, TrackerWorld.setWaitLock w k ((TrackerWorld.waitLock w k).giveUp τ)) :=
  .giveUp hφ (hl.waitLock_setWaitLock_self _ _ _)
    (fun _ hk => hl.waitLock_setWaitLock_of_ne _ _ _ _ hk) (hl.ticket_setWaitLock _ _ _)

end Protocol

end ChainWatch

namespace ChainWatch

section Safe

variable {σ α β : Type} [TrackerWorld σ]

/-- `p`, run from `w` by a task in phase `φ`, follows the protocol of the wait locks: each
change it makes is a move of its task; dropping it while it waits, in any world, gives up all it
holds; going past a wait is a move in the world it goes on in; and every value it ends with
satisfies `post` with the phase it ends in. -/
inductive LockSafe (post : α → LockPhase → Prop) : LockPhase → σ → Fiber σ α → Prop
  | done {φ : LockPhase} {w : σ} {a : α} : post a φ → LockSafe post φ w (.done a)
  | read {φ : LockPhase} {w : σ} {k : σ → Fiber σ α} :
      LockSafe post φ w (k w) → LockSafe post φ w (.read k)
  | update {φ ψ : LockPhase} {w : σ} {f : σ → σ} {n : Fiber σ α} :
      LockMoves (φ, w) (ψ, f w) → LockSafe post ψ (f w) n → LockSafe post φ w (.update f n)
  | block {φ : LockPhase} {w : σ} {wt : Wait σ} {n : Fiber σ α} (next : σ → LockPhase) :
      (∀ w', LockMoves (φ, w') (.idle, wt.release w')) →
      (∀ w', wt.ready w' = true → LockMoves (φ, w') (next w', w')) →
      (∀ w', wt.ready w' = true → LockSafe post (next w') w' n) →
      LockSafe post φ w (.block wt n)

/-- Dropping `q` from phase `φ`, in any world, gives up all it holds. -/
def LockDrop (φ : LockPhase) (q : Fiber σ α) : Prop :=
  ∀ w : σ, LockMoves (φ, w) (.idle, q.dropped w)

variable {post P : α → LockPhase → Prop} {Q : β → LockPhase → Prop}

namespace LockSafe

/-- A blocked fiber follows the protocol from any world. -/
theorem block_world {φ : LockPhase} {w : σ} {wt : Wait σ} {n : Fiber σ α}
    (h : LockSafe post φ w (.block wt n)) (w' : σ) : LockSafe post φ w' (.block wt n) := by
  cases h with
  | block next hrel hnext hn => exact .block next hrel hnext hn

theorem drop {φ : LockPhase} {w : σ} {wt : Wait σ} {n : Fiber σ α}
    (h : LockSafe post φ w (.block wt n)) : LockDrop φ (Fiber.block wt n) := by
  cases h with
  | block _ hrel _ _ => exact hrel

theorem mono (hP : ∀ a φ, P a φ → post a φ) {φ : LockPhase} {w : σ} {p : Fiber σ α}
    (h : LockSafe P φ w p) : LockSafe post φ w p := by
  induction h with
  | done ha => exact .done (hP _ _ ha)
  | read _ ih => exact .read ih
  | update hm _ ih => exact .update hm ih
  | block next hrel hnext _ ih => exact .block next hrel hnext ih

/-- **A fiber that follows the protocol, bound to continuations that follow it from the phase
and value it ends with, follows it.** -/
theorem bind {φ : LockPhase} {w : σ} {p : Fiber σ α} {f : α → Fiber σ β} (hp : LockSafe P φ w p)
    (hf : ∀ a ψ w', P a ψ → LockSafe Q ψ w' (f a)) : LockSafe Q φ w (Fiber.bind p f) := by
  induction hp with
  | done ha => exact hf _ _ _ ha
  | read _ ih => exact .read ih
  | update hm _ ih => exact .update hm ih
  | block next hrel hnext _ ih => exact .block next hrel hnext ih

/-- Work that keeps the locks follows the protocol outside any wait. -/
theorem of_framed {P : α → Prop} {p : Fiber σ α} (hp : Fiber.Framed TrackerWorld.locks P p) (w : σ) :
    LockSafe (fun a φ => P a ∧ φ = .idle) .idle w p := by
  induction hp generalizing w with
  | done ha => exact .done ⟨ha, rfl⟩
  | read _ ih => exact .read (ih w w)
  | @update f _ hf _ ih => exact .update (.single (.work rfl (hf w))) (ih (f w))
  | block hr _ ih =>
    exact .block (fun _ => .idle) (fun w' => .single (.work rfl (hr w'))) (fun _ _ => .refl)
      (fun w' _ => ih w')

/-- **Work that keeps the locks, holding the lock of `k` for `τ` and giving it up when it ends
or is dropped, follows the protocol from inside that lock.** -/
theorem releasing (hl : TrackerWorld.LockLaws σ) {k : ServiceKind} {τ : Nat} {P : α → Prop}
    {body : Fiber σ α} (hbody : Fiber.Framed TrackerWorld.locks P body) (w : σ) :
    LockSafe (fun a φ => P a ∧ φ = .idle) (.inside k τ) w
      (Fiber.releasing (fun w => TrackerWorld.setWaitLock w k ((TrackerWorld.waitLock w k).giveUp τ))
        body) := by
  induction hbody generalizing w with
  | done ha => exact .update (.single (hl.giveUp_move (.inr rfl) w)) (.done ⟨ha, rfl⟩)
  | read _ ih => exact .read (ih w w)
  | @update f _ hf _ ih => exact .update (.single (.work rfl (hf w))) (ih (f w))
  | @block wt _ hr _ ih =>
    -- a drop gives back what the wait holds, then the lock
    refine .block (fun _ => .inside k τ) (fun w' => ?_) (fun _ _ => .refl) (fun w' _ => ih w')
    exact (Relation.ReflTransGen.single (.work rfl (hr w'))).tail
      (hl.giveUp_move (.inr rfl) (wt.release w'))

/-! ### A race against a fiber that changes nothing -/

/-- How a race of a fiber that changes nothing against `q` ends, from the phase of its task:
the value of the one that ended, and the other as it stands. -/
def LockRacePost (P : α → Prop) (Q : β → LockPhase → Prop) : Finish σ α β → LockPhase → Prop
  | .left a rest, φ => P a ∧ LockDrop φ rest
  | .right rest b, φ => Q b φ ∧ Fiber.Keeps (fun w : σ => w) rest

/-- A fiber that follows the protocol, run beside one blocked on a wait that changes nothing. -/
theorem besideBlocked {wt : Wait σ} {n : Fiber σ α}
    {resume : Fiber σ β → Fiber σ (Finish σ α β)} {R : Finish σ α β → LockPhase → Prop}
    (hwt : ∀ w, wt.release w = w) (hdone : ∀ b φ, Q b φ → R (.right (.block wt n) b) φ)
    (hresume : ∀ q φ w, LockSafe Q φ w q → LockDrop φ q → LockSafe R φ w (resume q))
    {q : Fiber σ β} {φ : LockPhase} {w : σ} (hq : LockSafe Q φ w q) :
    LockSafe R φ w (Fiber.besideBlocked wt n resume q) := by
  induction hq with
  | done hb => exact .done (hdone _ _ hb)
  | read _ ih => exact .read ih
  | update hm _ ih => exact .update hm ih
  | @block φ w wt₂ m next hrel hnext hm ih =>
    -- the two waits are one; past it, `q` goes on only if the other still waits
    refine .block (fun w' => if wt.ready w' = true then φ else next w') (fun w' => ?_)
      (fun w' hr => ?_) (fun w' hr => .read ?_)
    · show LockMoves (φ, w') (.idle, wt₂.release (wt.release w'))
      rw [hwt]
      exact hrel w'
    · by_cases hw : wt.ready w' = true
      · rw [if_pos hw]
      · have h₂ : wt₂.ready w' = true := by
          simpa [Wait.either, hw] using hr
        rw [if_neg hw]
        exact hnext w' h₂
    · by_cases hw : wt.ready w' = true
      · simp only [hw, if_true]
        exact hresume _ φ w' (.block next hrel hnext hm) hrel
      · have h₂ : wt₂.ready w' = true := by
          simpa [Wait.either, hw] using hr
        simp only [hw, Bool.false_eq_true, if_false]
        exact ih w' h₂

/-- **A fiber that changes nothing, run beside one that follows the protocol, follows it**, when
what is left of the other can be dropped. -/
theorem firstDone {P : α → Prop} {p : Fiber σ α} (hp : Fiber.Framed (fun w : σ => w) P p) :
    ∀ {q : Fiber σ β} {φ : LockPhase} {w : σ}, LockSafe Q φ w q → LockDrop φ q →
      LockSafe (LockRacePost P Q) φ w (Fiber.firstDone p q) := by
  induction hp with
  | done ha => exact fun _ hd => .done ⟨ha, hd⟩
  | read _ ih => exact fun hq hd => .read (ih _ hq hd)
  | @update f _ hf _ ih =>
    intro q φ w hq hd
    have hw : f w = w := hf w
    refine .update (by rw [hw]) ?_
    rw [hw]
    exact ih hq hd
  | block hr hn ih =>
    exact fun hq _ => besideBlocked hr (fun _ _ hb => ⟨hb, .block hr hn.keeps⟩)
      (fun _ _ _ hq' hd' => ih hq' hd') hq

/-- **A race of a fiber that changes nothing against one that follows the protocol follows it**:
the other is dropped when the first ends, giving up all it holds. -/
theorem race {P : α → Prop} {p : Fiber σ α} {q : Fiber σ β} {φ : LockPhase} {w : σ}
    (hp : Fiber.Framed (fun w : σ => w) P p) (hq : LockSafe Q φ w q) (hd : LockDrop φ q) :
    LockSafe (fun r ψ => Sum.elim (fun a => P a ∧ ψ = .idle) (fun b => Q b ψ) r) φ w
      (Fiber.race p q) := by
  refine (LockSafe.firstDone hp hq hd).bind ?_
  rintro (⟨a, rest⟩ | ⟨rest, b⟩) ψ w' ⟨h₁, h₂⟩
  · exact .update (h₂ w') (.done ⟨h₁, rfl⟩)
  · have hw : rest.dropped w' = w' := h₂.dropped w'
    exact .update (by rw [hw]) (.done h₁)

end LockSafe

/-! ### Taking a ticket and holding a lock -/

/-- A hold that has not started holds nothing yet. -/
theorem LockSafe.holding_drop {k : ServiceKind} {τ : Nat} {body : Fiber σ α} :
    LockDrop (.ticketed τ)
      (Fiber.holding (TrackerWorld.waitLock · k) (TrackerWorld.setWaitLock · k) τ body) :=
  fun _ => .single .forget

variable (hl : TrackerWorld.LockLaws σ)
include hl

/-- Taking a fresh ticket. -/
theorem LockSafe.freshTicket (w : σ) :
    LockSafe (fun τ φ => φ = .ticketed τ) .idle w (TrackerWorld.freshTicket : Fiber σ Nat) :=
  .read (.update (.single (.take (hl.waitLock_setTicket _ _) (hl.ticket_setTicket _ _))) (.done rfl))

/-- **Holding the lock of `k` for a fresh ticket `τ` follows the protocol**: the ticket is
queued, the task goes past the lock once the ticket holds it, and gives it up when the body ends
or when it is dropped, also while it still waits. -/
theorem LockSafe.holding {k : ServiceKind} {τ : Nat} {P : α → Prop} {body : Fiber σ α}
    (hbody : Fiber.Framed TrackerWorld.locks P body) (w : σ) :
    LockSafe (fun a φ => P a ∧ φ = .idle) (.ticketed τ) w
      (Fiber.holding (TrackerWorld.waitLock · k) (TrackerWorld.setWaitLock · k) τ body) := by
  refine .update (.single (.request (hl.waitLock_setWaitLock_self _ _ _)
    (fun _ hk => hl.waitLock_setWaitLock_of_ne _ _ _ _ hk) (hl.ticket_setWaitLock _ _ _)))
    (.block (fun _ => .inside k τ) (fun w' => .single (hl.giveUp_move (.inl rfl) w'))
      (fun w' hr => .single (.enter ?_)) (fun w' _ => LockSafe.releasing hl hbody w'))
  simpa [FairLock.heldBy] using hr

end Safe

end ChainWatch

namespace ChainWatch

/-! ### A pool of tasks that follow the protocol -/

section Pool

variable {σ α : Type} [TrackerWorld σ] {post : α → LockPhase → Prop}

/-- **A turn of a task that follows the protocol keeps the invariant**, and what is left of the
task follows the protocol from the phase it has come to, in any world. -/
theorem LockSafe.turn {φ : LockPhase} {w : σ} {p : Fiber σ α} (h : LockSafe post φ w p)
    {phases : List LockPhase} {i : Nat} (hinv : LockInv w phases) (hi : phases[i]? = some φ) :
    ∃ ψ, LockInv (Fiber.turn w p).1 (phases.set i ψ) ∧
      ∀ w', LockSafe post ψ w' (Fiber.turn w p).2 := by
  have hlt : i < phases.length := (List.getElem?_eq_some_iff.mp hi).1
  induction h generalizing phases with
  | done ha => exact ⟨_, hinv.moves hi .refl, fun _ => .done ha⟩
  | read _ ih => exact ih hinv hi hlt
  | update hm _ ih =>
    -- the world moves on, and the task with it
    obtain ⟨ψ, hψ, hsafe⟩ := ih (hinv.moves hi hm) (List.getElem?_set_self hlt)
      (by rw [List.length_set]; exact hlt)
    rw [List.set_set] at hψ
    exact ⟨ψ, hψ, hsafe⟩
  | block next hrel hnext hn =>
    exact ⟨_, hinv.moves hi .refl, fun w' => .block next hrel hnext hn⟩

/-- A task that can go on takes a turn: past its wait, in the phase the wait leads to. -/
theorem LockSafe.goOn {φ : LockPhase} {p : Fiber σ α} (h : ∀ w, LockSafe post φ w p) {w : σ}
    {phases : List LockPhase} {i : Nat} (hinv : LockInv w phases) (hi : phases[i]? = some φ)
    {r : σ × Fiber σ α} (hgo : p.goOn w = some r) :
    ∃ ψ, LockInv r.1 (phases.set i ψ) ∧ ∀ w', LockSafe post ψ w' r.2 := by
  have hlt : i < phases.length := (List.getElem?_eq_some_iff.mp hi).1
  cases p with
  | done a => cases hgo
  | read k =>
    cases hgo
    exact (h w).turn hinv hi
  | update f n =>
    cases hgo
    exact (h w).turn hinv hi
  | block wt n =>
    simp only [Fiber.goOn, Option.ite_none_right_eq_some, Option.some.injEq] at hgo
    obtain ⟨hr, rfl⟩ := hgo
    cases h w with
    | block next _ hnext hn =>
      obtain ⟨ψ, hψ, hsafe⟩ := (hn w hr).turn (hinv.moves hi (hnext w hr))
        (List.getElem?_set_self hlt)
      rw [List.set_set] at hψ
      exact ⟨ψ, hψ, hsafe⟩

/-- Tasks that follow the protocol from the phases `phases`, which keep the invariant. -/
structure LockState (post : α → LockPhase → Prop) (c : Pool σ α) (phases : List LockPhase) :
    Prop where
  length : phases.length = c.tasks.length
  inv : LockInv c.world phases
  safe : ∀ (i : Nat) (p : Fiber σ α) (φ : LockPhase), c.tasks[i]? = some p → phases[i]? = some φ →
    ∀ w, LockSafe post φ w p

variable (hl : TrackerWorld.LockLaws σ)
include hl

/-- **Every step of a pool keeps the protocol**: a turn of one task, or time moving on. -/
theorem LockState.step {c c' : Pool σ α} {phases : List LockPhase}
    (hs : LockState post c phases) {e : Option (Nat × α)} (hstep : Pool.Step c e c') :
    ∃ phases', LockState post c' phases' := by
  cases hstep with
  | @turn i p r hp hgo =>
    have hlt : i < phases.length := by
      rw [hs.length]
      exact (List.getElem?_eq_some_iff.mp hp).1
    obtain ⟨φ, hφ⟩ : ∃ φ, phases[i]? = some φ := ⟨_, List.getElem?_eq_getElem hlt⟩
    obtain ⟨ψ, hinv, hsafe⟩ := LockSafe.goOn (hs.safe i p φ hp hφ) hs.inv hφ hgo
    refine ⟨phases.set i ψ, ⟨by simp [hs.length], hinv, fun j q χ hq hχ => ?_⟩⟩
    -- the task that took its turn is where the turn left it; the others have not moved
    by_cases hj : j = i
    · subst hj
      rw [List.getElem?_set_self (by rw [← hs.length]; exact hlt)] at hq
      rw [List.getElem?_set_self hlt] at hχ
      cases hq
      cases hχ
      exact hsafe
    · rw [List.getElem?_set_ne (Ne.symm hj)] at hq hχ
      exact hs.safe j q χ hq hχ
  | tick _ =>
    exact ⟨phases, hs.length, hs.inv.of_locks (hl.locks_setNow _ _), hs.safe⟩

/-- **Every run of a pool keeps the protocol**, whatever the order of its steps. -/
theorem LockState.run {c c' : Pool σ α} {phases : List LockPhase}
    (hs : LockState post c phases) {es : List (Option (Nat × α))}
    (hrun : Pool.Run c es c') : ∃ phases', LockState post c' phases' := by
  induction hrun with
  | refl => exact ⟨phases, hs⟩
  | tail _ hstep ih =>
    obtain ⟨phases', hs'⟩ := ih
    exact hs'.step hl hstep

omit hl in
/-- Tasks that have not started, none holding a ticket, over free locks. -/
theorem LockState.start {w : σ} {tasks : List (Fiber σ α)}
    (hfree : ∀ k, (TrackerWorld.waitLock w k).tickets = [])
    (htasks : ∀ p ∈ tasks, ∀ w, LockSafe post LockPhase.idle w p) :
    LockState post ⟨w, tasks⟩ (List.replicate tasks.length .idle) := by
  -- every phase is `idle`
  have hidle : ∀ {i φ}, (List.replicate tasks.length LockPhase.idle)[i]? = some φ → φ = LockPhase.idle :=
    fun hi => (List.mem_replicate.mp (List.mem_of_getElem? hi)).2
  refine ⟨List.length_replicate, ⟨fun i φ hi => ?_, fun i j τ hi _ => ?_, fun k => ?_,
    fun k τ hτ => ?_⟩, fun i p φ hp hφ => ?_⟩
  · rw [hidle hi]
    trivial
  · obtain ⟨φ, hφ, hτ⟩ := Option.bind_eq_some_iff.mp hi
    rw [hidle hφ] at hτ
    cases hτ
  · rw [hfree k]
    exact List.nodup_nil
  · rw [hfree k] at hτ
    cases hτ
  · rw [hidle hφ]
    exact htasks p (List.mem_of_getElem? hp)

end Pool

end ChainWatch
