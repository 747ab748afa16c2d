import ChainWatch.Proofs.Fiber.Frame

/-!
# Fibers that keep a deadline

`Fiber.Timely D post t p` says that `p`, started at tick `t`, keeps the deadline `D` whenever it
runs alone: its changes and what it gives back when dropped leave the clock alone, and each of
its blocks is woken by a timer at or before `D`, after which it may go on at any tick up to `D`.
So every run of it ends by `D` (`Fiber.Timely.ends`). It is read off the shape of the fiber, with
the clock it reads fixed at `t` until it blocks.

A sleep is timely from the tick it begins (`Fiber.Timely.sleep`), and a fiber that keeps the
clock, whatever it waits for, raced against a timely one is timely (`Fiber.Timely.race`): each of
its blocks is watched together with the other fiber's, whose timer wakes both.
-/

namespace ChainWatch

theorem Wait.earlier_le_some (a : Option Nat) (d : Nat) :
    ∃ d', Wait.earlier a (some d) = some d' ∧ d' ≤ d := by
  cases a with
  | none => exact ⟨d, rfl, Nat.le_refl d⟩
  | some s => exact ⟨min s d, rfl, Nat.min_le_right s d⟩

namespace Fiber

variable {σ α β : Type} [VirtualClock σ] {D : Nat} {P : α → Prop} {Q : β → Prop}

/-- `p`, started at tick `t`, keeps the deadline `D`: its changes and its drops keep the clock, and
each block is woken by a timer at or before `D` and goes on at any tick from the current one to
`D`; every value it ends with satisfies `post`. -/
inductive Timely (D : Nat) (post : α → Prop) : Nat → Fiber σ α → Prop
  | done {t : Nat} {a : α} : post a → Timely D post t (.done a)
  | read {t : Nat} {k : σ → Fiber σ α} :
      (∀ w, VirtualClock.now w = t → Timely D post t (k w)) → Timely D post t (.read k)
  | update {t : Nat} {f : σ → σ} {n : Fiber σ α} :
      (∀ w, VirtualClock.now (f w) = VirtualClock.now w) → Timely D post t n →
        Timely D post t (.update f n)
  | block {t d : Nat} {wt : Wait σ} {n : Fiber σ α} :
      wt.timer = some d → d ≤ D → (∀ w, VirtualClock.now (wt.release w) = VirtualClock.now w) →
      (∀ t', t ≤ t' → t' ≤ D → Timely D post t' n) → Timely D post t (.block wt n)

/-- **A timely fiber ends by its deadline**, in every run alone from its starting tick. -/
theorem Timely.ends [LawfulClock σ] {p : Fiber σ α} {w w' : σ} {a : α} (he : Ends w p w' a) :
    ∀ {t : Nat}, Timely D P t p → VirtualClock.now w = t → t ≤ D → VirtualClock.now w' ≤ D ∧ P a := by
  induction he with
  | done w a =>
    intro t h hw ht
    cases h with
    | done ha => exact ⟨hw ▸ ht, ha⟩
  | read _ ih =>
    intro t h hw ht
    cases h with
    | read hk => exact ih (hk _ hw) hw ht
  | update _ ih =>
    intro t h hw ht
    cases h with
    | update hf hn => exact ih hn (by rw [hf, hw]) ht
  | pass _ _ ih =>
    intro t h hw ht
    cases h with
    | block _ _ _ hn => exact ih (hn t (Nat.le_refl _) ht) hw ht
  | @wake w₀ _ _ _ _ t₁ _ ht₁ hlt _ ih =>
    intro t h hw ht
    cases h with
    | block hd hdD hrel hn =>
      -- time jumps to the block's own timer, which is at or before the deadline
      have hd₁ : t₁ = _ := Option.some.inj (ht₁.symm.trans hd)
      subst hd₁
      exact ih (.block hd hdD hrel fun t' h₁ h₂ => hn t' (by omega) h₂) (LawfulClock.now_setNow w₀ _) hdD

theorem Timely.bind {p : Fiber σ α} {f : α → Fiber σ β} {t : Nat} (hp : Timely D P t p) (ht : t ≤ D)
    (hf : ∀ a t', P a → t ≤ t' → t' ≤ D → Timely D Q t' (f a)) : Timely D Q t (Fiber.bind p f) := by
  induction hp with
  | done ha => exact hf _ _ ha (Nat.le_refl _) ht
  | read _ ih => exact .read fun w hw => ih w hw ht hf
  | update hu _ ih => exact .update hu (ih ht hf)
  | block hd hdD hrel _ ih =>
    exact .block hd hdD hrel fun t' h₁ h₂ =>
      ih t' h₁ h₂ h₂ fun a t'' ha h₃ h₄ => hf a t'' ha (Nat.le_trans h₁ h₃) h₄

theorem Timely.dropped {p : Fiber σ α} {t : Nat} (h : Timely D P t p) (w : σ) :
    VirtualClock.now (p.dropped w) = VirtualClock.now w := by
  cases h with
  | block _ _ hrel _ => exact hrel w
  | _ => rfl

theorem Timely.releasing {rel : σ → σ} (hrel : ∀ w, VirtualClock.now (rel w) = VirtualClock.now w)
    {p : Fiber σ α} {t : Nat} (h : Timely D P t p) : Timely D P t (Fiber.releasing rel p) := by
  induction h with
  | done ha => exact .update hrel (.done ha)
  | read _ ih => exact .read ih
  | update hu _ ih => exact .update hu ih
  | block hd hdD hwt _ ih => exact .block hd hdD (fun w => (hrel _).trans (hwt w)) ih

theorem Timely.waitUntilTick {n t : Nat} (hn : n ≤ D) :
    Timely D (fun _ => True) t (Fiber.waitUntilTick n : Fiber σ Unit) := by
  refine .read fun w _ => ?_
  split
  · exact .done trivial
  · exact .block rfl hn (fun _ => rfl) fun _ _ _ => .done trivial

/-- A sleep of `ms` milliseconds begun at tick `t` is over by millisecond `t / 2 + ms`. -/
theorem Timely.sleep {ms t : Nat} (hms : ms ≠ 0) :
    Timely (2 * (t / 2 + ms)) (fun _ => True) t (Fiber.sleep ms : Fiber σ Unit) := by
  unfold Fiber.sleep
  rw [if_neg hms]
  refine .read fun w hw => ?_
  show Timely _ _ t (Fiber.waitUntil (VirtualClock.now w / 2 + ms))
  rw [hw]
  exact Timely.waitUntilTick (Nat.le_refl _)

/-- How a race beside a fiber that keeps the clock ends: the value of the one that ended
satisfies its condition, and dropping the other keeps the clock. -/
def Finish.Clocked (P : α → Prop) (Q : β → Prop) : Finish σ α β → Prop
  | .left a rest => P a ∧ ∀ w, VirtualClock.now (rest.dropped w) = VirtualClock.now w
  | .right rest b => Q b ∧ ∀ w, VirtualClock.now (rest.dropped w) = VirtualClock.now w

/-- **A fiber beside a blocked one keeps the deadline it keeps alone**: each of its blocks is
watched together with the blocked one, and woken by the earlier timer. -/
theorem Timely.besideBlocked {R : Finish σ α β → Prop} {wt : Wait σ} {n : Fiber σ α}
    {resume : Fiber σ β → Fiber σ (Finish σ α β)}
    (hwt : ∀ w, VirtualClock.now (wt.release w) = VirtualClock.now w)
    (hdone : ∀ b, Q b → R (.right (.block wt n) b))
    (hresume : ∀ t' q, t' ≤ D → Timely D Q t' q → Timely D R t' (resume q))
    {q : Fiber σ β} {t : Nat} (hq : Timely D Q t q) (ht : t ≤ D) :
    Timely D R t (Fiber.besideBlocked wt n resume q) := by
  induction hq with
  | done hb => exact .done (hdone _ hb)
  | read _ ih => exact .read fun w hw => ih w hw ht
  | update hu _ ih => exact .update hu (ih ht)
  | @block t₀ d wt₂ m hd hdD hrel hm ih =>
    -- the two waits are one, woken by the earlier timer
    obtain ⟨d', hd', hdd⟩ := Wait.earlier_le_some wt.timer d
    refine .block (d := d') (by simp only [Wait.either, hd, hd']) (Nat.le_trans hdd hdD)
      (fun w => (hrel _).trans (hwt w)) fun t' h₁ h₂ => .read fun w _ => ?_
    split
    · exact hresume t' _ h₂ (.block hd hdD hrel fun t'' h₃ h₄ => hm t'' (Nat.le_trans h₁ h₃) h₄)
    · exact ih t' h₁ h₂ h₂

/-- **A fiber that keeps the clock, run beside a timely one, is timely**: the race ends by the
deadline of the timely one, whatever the other does. -/
theorem Timely.firstDone {p : Fiber σ α} (hp : Framed VirtualClock.now P p) :
    ∀ {q : Fiber σ β} {t : Nat}, Timely D Q t q → t ≤ D →
      Timely D (Finish.Clocked P Q) t (Fiber.firstDone p q) := by
  induction hp with
  | done ha => exact fun hq _ => .done ⟨ha, hq.dropped⟩
  | read _ ih => exact fun hq ht => .read fun w _ => ih w hq ht
  | update hu _ ih => exact fun hq ht => .update hu (ih hq ht)
  | block hr _ ih =>
    exact fun hq ht => Timely.besideBlocked hr (fun _ hb => ⟨hb, hr⟩) (fun _ _ h hq' => ih hq' h) hq ht

theorem Timely.race {p : Fiber σ α} {q : Fiber σ β} {t : Nat} (hp : Framed VirtualClock.now P p)
    (hq : Timely D Q t q) (ht : t ≤ D) : Timely D (Sum.elim P Q) t (Fiber.race p q) := by
  refine (Timely.firstDone hp hq ht).bind ht fun fin _ hfin _ _ => ?_
  cases fin <;> exact .update hfin.2 (.done hfin.1)

/-- A race ends as its two fibers side by side did, then drops the loser, which leaves the clock
where it was when the finish is clocked. -/
theorem ends_race_clocked {p : Fiber σ α} {q : Fiber σ β} {w w' : σ} {x : α ⊕ β}
    (h : Ends w (race p q) w' x) :
    ∃ w₁ fin, Ends w (firstDone p q) w₁ fin ∧
      ∀ {P : α → Prop} {Q : β → Prop}, Finish.Clocked P Q fin → VirtualClock.now w' = VirtualClock.now w₁ := by
  obtain ⟨w₁, fin, hfirst, hend⟩ := ends_bind_iff.mp h
  refine ⟨w₁, fin, hfirst, fun hfin => ?_⟩
  cases fin <;>
  · obtain ⟨rfl, -⟩ := ends_done_iff.mp (ends_update_iff.mp hend)
    exact hfin.2 w₁

end Fiber

end ChainWatch
