import ChainWatch.Proofs.Fiber.Frame

/-!
# Fibers side by side, in any order

A `Pool` is a world and the tasks that run over it. In a step, one task that can go on takes a
*turn*: it runs up to its next block or its end (`Fiber.turn`), a blocked task only once its
wait is over (`Fiber.goOn`); or time moves on to any later tick. Which task goes, and when time
moves, is left open: a `Pool.Run` is any sequence of steps, so what holds along every run holds
whatever the order in which the fibers are scheduled. A run also records, step by step, the task
that ended in it and the value it ended with (`Pool.ended`).

A turn of a framed fiber keeps the view, and what is left of the fiber is framed
(`Fiber.Framed.goOn`); a turn of a bound fiber is a turn of its first part, then, if that part
ended, a turn of what follows (`Fiber.turn_bind`).
-/

namespace ChainWatch

namespace Fiber

variable {σ α β ν : Type}

/-- Runs a fiber up to its next block or its end: the world it leaves, and what is left of it. -/
def turn : σ → Fiber σ α → σ × Fiber σ α
  | w, done a => (w, done a)
  | w, read k => turn w (k w)
  | w, update f n => turn (f w) n
  | w, block wt n => (w, block wt n)

/-- A turn of a fiber in world `w`, past its block if its wait is over; `none` when the fiber
has ended or still waits. -/
def goOn (w : σ) : Fiber σ α → Option (σ × Fiber σ α)
  | done _ => none
  | block wt n => if wt.ready w then some (turn w n) else none
  | p => some (turn w p)

/-- What is left after a turn of `p`, once `p` is bound to `f`: if `p` ended, `f` of its value
takes the rest of the turn. -/
def turnThen (f : α → Fiber σ β) : σ × Fiber σ α → σ × Fiber σ β
  | (w, done a) => turn w (f a)
  | (w, q) => (w, bind q f)

theorem turn_bind (w : σ) (p : Fiber σ α) (f : α → Fiber σ β) :
    turn w (bind p f) = turnThen f (turn w p) := by
  induction p generalizing w with
  | done a => rfl
  | read k ih => exact ih w w
  | update g n ih => exact ih (g w)
  | block wt n => rfl

/-- A turn of a bound fiber that has not ended is a turn of its first part, then of what
follows. -/
theorem goOn_bind {p : Fiber σ α} (hp : ∀ a, p ≠ done a) (w : σ) (f : α → Fiber σ β) :
    (bind p f).goOn w = (p.goOn w).map (turnThen f) := by
  cases p with
  | done a => exact absurd rfl (hp a)
  | read k => exact congrArg some (turn_bind w (read k) f)
  | update g n => exact congrArg some (turn_bind w (update g n) f)
  | block wt n =>
    simp only [bind, goOn]
    split
    · exact congrArg some (turn_bind w n f)
    · rfl

variable {view : σ → ν} {P : α → Prop}

theorem Framed.turn {p : Fiber σ α} (h : Framed view P p) (w : σ) :
    view (Fiber.turn w p).1 = view w ∧ Framed view P (Fiber.turn w p).2 := by
  induction h generalizing w with
  | done ha => exact ⟨rfl, .done ha⟩
  | read _ ih => exact ih w w
  | @update f n hf _ ih =>
    obtain ⟨hv, hn⟩ := ih (f w)
    exact ⟨hv.trans (hf w), hn⟩
  | block hr hn => exact ⟨rfl, .block hr hn⟩

/-- **A turn of a framed fiber keeps the view**, and what is left of the fiber is framed. -/
theorem Framed.goOn {p : Fiber σ α} (h : Framed view P p) {w : σ} {r : σ × Fiber σ α}
    (hgo : p.goOn w = some r) : view r.1 = view w ∧ Framed view P r.2 := by
  cases p with
  | done a => cases hgo
  | read k =>
    cases hgo
    exact h.turn w
  | update f n =>
    cases hgo
    exact h.turn w
  | block wt n =>
    simp only [Fiber.goOn, Option.ite_none_right_eq_some, Option.some.injEq] at hgo
    obtain ⟨_, rfl⟩ := hgo
    exact h.of_block.turn w

end Fiber

/-- Tasks run side by side over one world. -/
structure Pool (σ α : Type) where
  world : σ
  tasks : List (Fiber σ α)

namespace Pool

variable {σ α : Type}

/-- The task `i` with its value, if what is left of it after a turn has ended. -/
def ended (i : Nat) : Fiber σ α → Option (Nat × α)
  | .done a => some (i, a)
  | _ => none

variable [VirtualClock σ]

/-- One step of a pool, with the task that ended in it: a task that can go on takes a turn, or
time moves on. -/
inductive Step : Pool σ α → Option (Nat × α) → Pool σ α → Prop
  | turn {c : Pool σ α} {i : Nat} {p : Fiber σ α} {r : σ × Fiber σ α} :
      c.tasks[i]? = some p → p.goOn c.world = some r →
      Step c (ended i r.2) ⟨r.1, c.tasks.set i r.2⟩
  | tick {c : Pool σ α} {t : Nat} : VirtualClock.now c.world < t →
      Step c none ⟨VirtualClock.setNow c.world t, c.tasks⟩

/-- A run of a pool, with what ended at each step, in order. -/
inductive Run (c : Pool σ α) : List (Option (Nat × α)) → Pool σ α → Prop
  | refl : Run c [] c
  | tail {c' c'' : Pool σ α} {es : List (Option (Nat × α))} {e : Option (Nat × α)} :
      Run c es c' → Step c' e c'' → Run c (es ++ [e]) c''

/-- A run followed by a turn of task `i`. -/
theorem Run.turn {c c' : Pool σ α} {es : List (Option (Nat × α))} (h : Run c es c') {i : Nat}
    {p : Fiber σ α} {r : σ × Fiber σ α} (hp : c'.tasks[i]? = some p)
    (hgo : p.goOn c'.world = some r) :
    Run c (es ++ [ended i r.2]) ⟨r.1, c'.tasks.set i r.2⟩ :=
  h.tail (.turn hp hgo)

/-- Task `i` takes a turn, if it can: what ended, and the pool after. -/
def turnAt (c : Pool σ α) (i : Nat) : Option (Option (Nat × α) × Pool σ α) :=
  c.tasks[i]?.bind fun p => (p.goOn c.world).map fun r => (ended i r.2, ⟨r.1, c.tasks.set i r.2⟩)

theorem Step.of_turnAt {c c' : Pool σ α} {i : Nat} {e : Option (Nat × α)}
    (h : c.turnAt i = some (e, c')) : Step c e c' := by
  simp only [turnAt, Option.bind_eq_some_iff, Option.map_eq_some_iff] at h
  obtain ⟨p, hp, r, hr, he⟩ := h
  cases he
  exact .turn hp hr

/-- Every step keeps the number of tasks. -/
theorem Step.length_tasks {c c' : Pool σ α} {e : Option (Nat × α)} (h : Step c e c') :
    c'.tasks.length = c.tasks.length := by
  cases h with
  | turn => exact List.length_set ..
  | tick => rfl

end Pool

end ChainWatch
