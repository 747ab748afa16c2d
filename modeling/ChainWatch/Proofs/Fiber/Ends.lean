import ChainWatch.Sim.Fiber

/-!
# Runs of a fiber on its own

`Fiber.Ends w p w' a` says that the fiber `p`, run alone from the world `w`, ends in the world
`w'` with the value `a`. The rules are those of `Fiber.run`: a fiber reads and changes the world,
goes on past a block whose wait is over, and lets time jump to the timer of a wait that is not
over yet. The relation is exactly what `Fiber.run` computes with enough steps
(`Fiber.ends_iff_run`), stated without a count of steps, so that the run of a fiber made of
parts is taken apart into the runs of its parts (`Fiber.ends_bind_iff`).

A clock is *lawful* (`LawfulClock`) when it reads back the time it was set to; every statement
about timers below needs it.
-/

namespace ChainWatch

/-- A clock that reads back the tick it was set to. -/
class LawfulClock (σ : Type) [VirtualClock σ] : Prop where
  now_setNow : ∀ (w : σ) (t : Nat), VirtualClock.now (VirtualClock.setNow w t) = t

attribute [simp] LawfulClock.now_setNow

namespace Fiber

variable {σ α β : Type} [VirtualClock σ]

/-- The fiber `p`, run alone from `w`, ends in `w'` with the value `a`. -/
inductive Ends : σ → Fiber σ α → σ → α → Prop
  | done (w : σ) (a : α) : Ends w (done a) w a
  | read {w w' : σ} {k : σ → Fiber σ α} {a : α} : Ends w (k w) w' a → Ends w (read k) w' a
  | update {w w' : σ} {f : σ → σ} {n : Fiber σ α} {a : α} :
      Ends (f w) n w' a → Ends w (update f n) w' a
  /-- A block whose wait is over is passed. -/
  | pass {w w' : σ} {wt : Wait σ} {n : Fiber σ α} {a : α} :
      wt.ready w = true → Ends w n w' a → Ends w (block wt n) w' a
  /-- A block whose wait is not over lets time jump to its timer. -/
  | wake {w w' : σ} {wt : Wait σ} {n : Fiber σ α} {a : α} {t : Nat} :
      wt.ready w = false → wt.timer = some t → VirtualClock.now w < t →
      Ends (VirtualClock.setNow w t) (block wt n) w' a → Ends w (block wt n) w' a

/-! ### The relation and `Fiber.run` -/

theorem ends_of_run : ∀ (n : Nat) {w w' : σ} {p : Fiber σ α} {a : α},
    run n w p = (w', some a) → Ends w p w' a := by
  intro n
  induction n with
  | zero => intro w w' p a h; simp [run] at h
  | succ n ih =>
    intro w w' p a h
    cases p with
    | done b =>
      simp only [run, Prod.mk.injEq, Option.some.injEq] at h
      obtain ⟨rfl, rfl⟩ := h
      exact .done w b
    | read k => exact .read (ih h)
    | update f m => exact .update (ih h)
    | block wt m =>
      simp only [run] at h
      by_cases hr : wt.ready w = true
      · rw [if_pos hr] at h
        exact .pass hr (ih h)
      · rw [if_neg hr] at h
        have hr' : wt.ready w = false := by simpa using hr
        -- the only way on is the timer of the wait
        split at h
        · rename_i t ht
          by_cases hlt : VirtualClock.now w < t
          · rw [if_pos hlt] at h
            exact .wake hr' ht hlt (ih h)
          · rw [if_neg hlt] at h
            simp at h
        · simp at h

theorem Ends.exists_run {w w' : σ} {p : Fiber σ α} {a : α} (h : Ends w p w' a) :
    ∃ n, run n w p = (w', some a) := by
  induction h with
  | done w a => exact ⟨1, rfl⟩
  | read _ ih =>
    obtain ⟨n, hn⟩ := ih
    exact ⟨n + 1, hn⟩
  | update _ ih =>
    obtain ⟨n, hn⟩ := ih
    exact ⟨n + 1, hn⟩
  | pass hr _ ih =>
    obtain ⟨n, hn⟩ := ih
    exact ⟨n + 1, by simp [run, hr, hn]⟩
  | wake hr ht hlt _ ih =>
    obtain ⟨n, hn⟩ := ih
    exact ⟨n + 1, by simp [run, hr, ht, hlt, hn]⟩

/-- **`Ends` is what `run` computes.** A lone fiber ends with a value exactly when `run` gives it
that value for some number of steps. -/
theorem ends_iff_run {w w' : σ} {p : Fiber σ α} {a : α} :
    Ends w p w' a ↔ ∃ n, run n w p = (w', some a) :=
  ⟨Ends.exists_run, fun ⟨n, h⟩ => ends_of_run n h⟩

/-- A run that gives a value ends in the world it leaves; only the value has to be computed. -/
theorem ends_of_run_snd (n : Nat) {w : σ} {p : Fiber σ α} {a : α} (h : (run n w p).2 = some a) :
    Ends w p (run n w p).1 a :=
  ends_of_run n (by rw [← h])

/-! ### One node at a time -/

@[simp] theorem ends_done_iff {w w' : σ} {a b : α} : Ends w (done a) w' b ↔ w' = w ∧ a = b := by
  constructor
  · rintro ⟨⟩
    exact ⟨rfl, rfl⟩
  · rintro ⟨rfl, rfl⟩
    exact .done _ _

@[simp] theorem ends_read_iff {w w' : σ} {k : σ → Fiber σ α} {a : α} :
    Ends w (read k) w' a ↔ Ends w (k w) w' a :=
  ⟨fun h => by cases h; assumption, .read⟩

@[simp] theorem ends_update_iff {w w' : σ} {f : σ → σ} {n : Fiber σ α} {a : α} :
    Ends w (update f n) w' a ↔ Ends (f w) n w' a :=
  ⟨fun h => by cases h; assumption, .update⟩

/-- A run is determined by where it starts. -/
theorem Ends.unique {w w₁ w₂ : σ} {p : Fiber σ α} {a b : α} (h₁ : Ends w p w₁ a)
    (h₂ : Ends w p w₂ b) : w₁ = w₂ ∧ a = b := by
  induction h₁ with
  | done w a =>
    obtain ⟨rfl, rfl⟩ := ends_done_iff.mp h₂
    exact ⟨rfl, rfl⟩
  | read _ ih => exact ih (ends_read_iff.mp h₂)
  | update _ ih => exact ih (ends_update_iff.mp h₂)
  | pass hr _ ih =>
    cases h₂ with
    | pass _ h => exact ih h
    | wake hr' => simp [hr] at hr'
  | wake hr ht hlt _ ih =>
    cases h₂ with
    | pass hr' => simp [hr] at hr'
    | wake _ ht' _ h =>
      rw [ht] at ht'
      cases ht'
      exact ih h

/-! ### Runs of a bound fiber -/

theorem Ends.bind {w w₁ w₂ : σ} {p : Fiber σ α} {f : α → Fiber σ β} {a : α} {b : β}
    (h₁ : Ends w p w₁ a) (h₂ : Ends w₁ (f a) w₂ b) : Ends w (Fiber.bind p f) w₂ b := by
  induction h₁ with
  | done => exact h₂
  | read _ ih => exact .read (ih h₂)
  | update _ ih => exact .update (ih h₂)
  | pass hr _ ih => exact .pass hr (ih h₂)
  | wake hr ht hlt _ ih => exact .wake hr ht hlt (ih h₂)

theorem Ends.of_bind {p : Fiber σ α} {f : α → Fiber σ β} {w w₂ : σ} {b : β}
    (h : Ends w (Fiber.bind p f) w₂ b) : ∃ w₁ a, Ends w p w₁ a ∧ Ends w₁ (f a) w₂ b := by
  induction p generalizing w with
  | done a => exact ⟨w, a, .done w a, h⟩
  | read k ih =>
    obtain ⟨w₁, a, h₁, h₂⟩ := ih w (ends_read_iff.mp h)
    exact ⟨w₁, a, .read h₁, h₂⟩
  | update g n ih =>
    obtain ⟨w₁, a, h₁, h₂⟩ := ih (ends_update_iff.mp h)
    exact ⟨w₁, a, .update h₁, h₂⟩
  | block wt n ih =>
    -- time may jump to the timer several times before the wait is over
    generalize hq : Fiber.bind (block wt n) f = q at h
    induction h with
    | pass hr h' =>
      cases hq
      obtain ⟨w₁, a, h₁, h₂⟩ := ih h'
      exact ⟨w₁, a, .pass hr h₁, h₂⟩
    | wake hr ht hlt _ ihw =>
      cases hq
      obtain ⟨w₁, a, h₁, h₂⟩ := ihw (fun h => ih h) rfl
      exact ⟨w₁, a, .wake hr ht hlt h₁, h₂⟩
    | done => cases hq
    | read => cases hq
    | update => cases hq

/-- **Runs of a bound fiber.** `bind p f` ends exactly when `p` ends and then `f` of its value
ends, from the world `p` left. -/
theorem ends_bind_iff {p : Fiber σ α} {f : α → Fiber σ β} {w w₂ : σ} {b : β} :
    Ends w (Fiber.bind p f) w₂ b ↔ ∃ w₁ a, Ends w p w₁ a ∧ Ends w₁ (f a) w₂ b :=
  ⟨Ends.of_bind, fun ⟨_, _, h₁, h₂⟩ => h₁.bind h₂⟩

@[simp] theorem ends_now_iff {w w' : σ} {t : Nat} :
    Ends w (now : Fiber σ Nat) w' t ↔ w' = w ∧ VirtualClock.now w / 2 = t := by
  simp [now]

@[simp] theorem ends_modify_iff {w w' : σ} {f : σ → σ} {u : Unit} :
    Ends w (modify f) w' u ↔ w' = f w := by
  simp [modify]

end Fiber

end ChainWatch
