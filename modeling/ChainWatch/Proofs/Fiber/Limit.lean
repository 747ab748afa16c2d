import ChainWatch.Proofs.Fiber.Timely

/-!
# Runs up to a time limit

`Fiber.Within d w p w' x` is the run of `p` alone from `w`, beside a timer at tick `d`, if there
is one, that stops the run unless `p` ends first: `x` is `some a` when `p` ends with `a`, and
`none` when the limit came while `p` was waiting, `p` being dropped there. A block of `p` is
woken by the earlier of its own timer and the limit, and when `p`'s wait and the limit are over
at the same tick, `p` goes on first. With no limit it is a plain run (`Fiber.within_none_iff`).

This is what a race of a fiber against a sleep does: once the sleep waits for its tick, the race
ends as the run of the fiber up to that tick (`Fiber.ends_race_forTick_iff`), and a fiber that
keeps the clock has the sleep begin at once (`Fiber.ends_race_sleep_iff`). A run up to a limit
is taken apart like a run (`Fiber.within_bind_iff`), and a sleep wakes at its end or is stopped
by the limit (`Fiber.within_sleep_iff`). The clock moved on to a tick that may have passed
already is `VirtualClock.advanceTo`.

Two plain runs come first: a race against a fiber that never ends is the other fiber's run
(`Fiber.ends_race_hang_iff`), and a fiber that releases what it holds at its end runs as itself
(`Fiber.ends_releasing_iff`).
-/

namespace ChainWatch

namespace VirtualClock

variable {σ : Type} [VirtualClock σ]

/-- The world with its clock moved on to tick `n`, if it is not there yet. -/
def advanceTo (w : σ) (n : Nat) : σ := if now w < n then setNow w n else w

theorem advanceTo_of_le {w : σ} {n : Nat} (h : n ≤ now w) : advanceTo w n = w :=
  if_neg (Nat.not_lt.mpr h)

theorem advanceTo_of_lt {w : σ} {n : Nat} (h : now w < n) : advanceTo w n = setNow w n :=
  if_pos h

theorem now_advanceTo [LawfulClock σ] {w : σ} {n : Nat} (h : now w ≤ n) : now (advanceTo w n) = n := by
  unfold advanceTo
  split
  · exact LawfulClock.now_setNow w n
  · omega

end VirtualClock

theorem Wait.earlier_none (a : Option Nat) : Wait.earlier a none = a := by
  cases a <;> rfl

theorem Wait.le_of_earlier_some {a : Option Nat} {D t : Nat} (h : Wait.earlier a (some D) = some t) :
    t ≤ D := by
  obtain ⟨d', hd', hle⟩ := Wait.earlier_le_some a D
  rw [h] at hd'
  cases hd'
  exact hle

namespace Fiber

variable {σ α β : Type}

/-! ### How a race unfolds -/

theorem race_done (a : α) (q : Fiber σ β) : race (done a) q = update q.dropped (done (.inl a)) := rfl

theorem race_read (k : σ → Fiber σ α) (q : Fiber σ β) : race (read k) q = read fun w => race (k w) q :=
  rfl

theorem race_update (f : σ → σ) (n : Fiber σ α) (q : Fiber σ β) :
    race (update f n) q = update f (race n q) :=
  rfl

theorem race_block_read (wt : Wait σ) (n : Fiber σ α) (k : σ → Fiber σ β) :
    race (block wt n) (read k) = read fun w => race (block wt n) (k w) :=
  rfl

theorem race_block_update (wt : Wait σ) (n : Fiber σ α) (f : σ → σ) (m : Fiber σ β) :
    race (block wt n) (update f m) = update f (race (block wt n) m) :=
  rfl

theorem race_block_done (wt : Wait σ) (n : Fiber σ α) (b : β) :
    race (block wt n) (done b) = update wt.release (done (.inr b)) :=
  rfl

/-- Two blocked fibers are watched together; the first goes on when its own wait is over, and
else the second does. -/
theorem race_block_block (wt ws : Wait σ) (n : Fiber σ α) (m : Fiber σ β) :
    race (block wt n) (block ws m) =
      block (wt.either ws) (read fun w =>
        if wt.ready w then race n (block ws m) else race (block wt n) m) := by
  show block _ (read fun w => Fiber.bind (if wt.ready w then _ else _) _) = _
  congr 2
  funext w
  split <;> rfl

/-- **A fiber that never ends never wins a race**: the race is the other fiber's run. -/
theorem ends_race_hang_iff [VirtualClock σ] {u : Unit} :
    ∀ {p : Fiber σ α} {w w' : σ} {x : Unit ⊕ α},
      Ends w (race (block Wait.never (done u)) p) w' x ↔ ∃ a, x = .inr a ∧ Ends w p w' a := by
  intro p
  induction p with
  | done a =>
    intro w w' x
    simp only [race_block_done, ends_update_iff, ends_done_iff, Wait.never, id]
    constructor
    · rintro ⟨rfl, rfl⟩
      exact ⟨a, rfl, rfl, rfl⟩
    · rintro ⟨b, rfl, rfl, rfl⟩
      exact ⟨rfl, rfl⟩
  | read k ih => simp [race_block_read, ih]
  | update f m ih => simp [race_block_update, ih]
  | block ws m ih =>
    intro w w' x
    rw [race_block_block]
    constructor
    · -- the two waits watched together are the second fiber's own
      intro h
      generalize hq : block (Wait.never.either ws) _ = q at h
      induction h with
      | pass hr h' =>
        cases hq
        rw [ends_read_iff, if_neg (by simp [Wait.never])] at h'
        obtain ⟨a, rfl, hm⟩ := ih.mp h'
        exact ⟨a, rfl, .pass (by simpa [Wait.either, Wait.never] using hr) hm⟩
      | wake hr ht hlt _ ihw =>
        cases hq
        obtain ⟨a, rfl, hm⟩ := ihw rfl
        exact ⟨a, rfl, .wake (by simpa [Wait.either, Wait.never] using hr) ht hlt hm⟩
      | done => cases hq
      | read => cases hq
      | update => cases hq
    · rintro ⟨a, rfl, h⟩
      generalize hq : block ws m = q at h
      induction h with
      | pass hr h' =>
        cases hq
        exact .pass (by simp [Wait.either, hr])
          (.read (by rw [if_neg (by simp [Wait.never])]; exact ih.mpr ⟨_, rfl, h'⟩))
      | wake hr ht hlt _ ihw =>
        cases hq
        exact .wake (by simp [Wait.either, Wait.never, hr]) ht hlt (ihw rfl)
      | done => cases hq
      | read => cases hq
      | update => cases hq

/-- **A fiber made to give something back runs as it would**, and gives it back at its end. -/
theorem ends_releasing_iff [VirtualClock σ] {rel : σ → σ} :
    ∀ {p : Fiber σ α} {w w' : σ} {a : α},
      Ends w (releasing rel p) w' a ↔ ∃ w₁, Ends w p w₁ a ∧ w' = rel w₁ := by
  intro p
  induction p with
  | done b =>
    intro w w' a
    simp only [releasing, ends_update_iff, ends_done_iff]
    constructor
    · rintro ⟨rfl, rfl⟩
      exact ⟨w, ⟨rfl, rfl⟩, rfl⟩
    · rintro ⟨w₁, ⟨rfl, rfl⟩, rfl⟩
      exact ⟨rfl, rfl⟩
  | read k ih => simp [releasing, ih]
  | update f m ih => simp [releasing, ih]
  | block wt m ih =>
    intro w w' a
    constructor
    · -- the wait keeps what it waits for; only what it gives back when dropped changes
      intro h
      generalize hq : releasing rel (block wt m) = q at h
      induction h with
      | pass hr h' =>
        cases hq
        obtain ⟨w₁, h₁, rfl⟩ := ih.mp h'
        exact ⟨w₁, .pass hr h₁, rfl⟩
      | wake hr ht hlt _ ihw =>
        cases hq
        obtain ⟨w₁, h₁, rfl⟩ := ihw rfl
        exact ⟨w₁, .wake hr ht hlt h₁, rfl⟩
      | done => cases hq
      | read => cases hq
      | update => cases hq
    · rintro ⟨w₁, h, rfl⟩
      generalize hq : block wt m = q at h
      induction h with
      | pass hr h' =>
        cases hq
        exact .pass hr (ih.mpr ⟨_, h', rfl⟩)
      | wake hr ht hlt _ ihw =>
        cases hq
        exact .wake hr ht hlt (ihw rfl)
      | done => cases hq
      | read => cases hq
      | update => cases hq

variable [VirtualClock σ]

/-- Tick `n` comes by the limit `d`, if there is one. -/
def ByLimit (d : Option Nat) (n : Nat) : Prop := ∀ D, d = some D → n ≤ D

@[simp] theorem byLimit_none {n : Nat} : ByLimit none n := fun _ h => nomatch h

@[simp] theorem byLimit_some {D n : Nat} : ByLimit (some D) n ↔ n ≤ D :=
  ⟨fun h => h D rfl, fun h _ hD => by cases hD; exact h⟩

theorem ByLimit.mono {d : Option Nat} {m n : Nat} (h : ByLimit d n) (hm : m ≤ n) : ByLimit d m :=
  fun D hD => Nat.le_trans hm (h D hD)

/-- The tick at which a sleep of `ms` milliseconds begun in `w` wakes. -/
def wakeTick (w : σ) (ms : Nat) : Nat := 2 * (VirtualClock.now w / 2 + ms)

theorem bind_now (f : Nat → Fiber σ α) :
    Fiber.bind now f = read fun w => f (VirtualClock.now w / 2) :=
  rfl

/-- The wait of a sleep for tick `n`. -/
def Wait.forTick (n : Nat) : Wait σ :=
  { ready := fun w => n ≤ VirtualClock.now w, timer := some n, release := id }

theorem waitUntilTick_eq (n : Nat) :
    (waitUntilTick n : Fiber σ Unit) =
      read fun w => if n ≤ VirtualClock.now w then done () else block (Wait.forTick n) (done ()) :=
  rfl

/-- `p`, run alone from `w` beside a timer at tick `d` if there is one, leaves `w'`, with `some a`
if `p` ended with `a`, or `none` if the limit came while `p` was waiting. -/
inductive Within (d : Option Nat) : σ → Fiber σ α → σ → Option α → Prop
  | done (w : σ) (a : α) : Within d w (done a) w (some a)
  | read {w w' : σ} {k : σ → Fiber σ α} {x : Option α} :
      Within d w (k w) w' x → Within d w (read k) w' x
  | update {w w' : σ} {f : σ → σ} {n : Fiber σ α} {x : Option α} :
      Within d (f w) n w' x → Within d w (update f n) w' x
  /-- A block whose wait is over is passed, even at the limit. -/
  | pass {w w' : σ} {wt : Wait σ} {n : Fiber σ α} {x : Option α} :
      wt.ready w = true → Within d w n w' x → Within d w (block wt n) w' x
  /-- Time jumps to the earlier of the block's timer and the limit. -/
  | wake {w w' : σ} {wt : Wait σ} {n : Fiber σ α} {x : Option α} {t : Nat} :
      wt.ready w = false → Wait.earlier wt.timer d = some t → VirtualClock.now w < t →
      Within d (VirtualClock.setNow w t) (block wt n) w' x → Within d w (block wt n) w' x
  /-- At the limit, a fiber still waiting is dropped. -/
  | stop {w : σ} {wt : Wait σ} {n : Fiber σ α} {D : Nat} :
      wt.ready w = false → d = some D → D ≤ VirtualClock.now w →
      Within d w (block wt n) (wt.release w) none

variable {d : Option Nat}

/-! ### One node at a time -/

@[simp] theorem within_done_iff {w w' : σ} {a : α} {x : Option α} :
    Within d w (done a) w' x ↔ w' = w ∧ x = some a := by
  constructor
  · rintro ⟨⟩
    exact ⟨rfl, rfl⟩
  · rintro ⟨rfl, rfl⟩
    exact .done _ _

@[simp] theorem within_read_iff {w w' : σ} {k : σ → Fiber σ α} {x : Option α} :
    Within d w (read k) w' x ↔ Within d w (k w) w' x :=
  ⟨fun h => by cases h; assumption, .read⟩

@[simp] theorem within_update_iff {w w' : σ} {f : σ → σ} {n : Fiber σ α} {x : Option α} :
    Within d w (update f n) w' x ↔ Within d (f w) n w' x :=
  ⟨fun h => by cases h; assumption, .update⟩

@[simp] theorem within_now_iff {w w' : σ} {x : Option Nat} :
    Within d w (now : Fiber σ Nat) w' x ↔ w' = w ∧ x = some (VirtualClock.now w / 2) := by
  simp [now]

@[simp] theorem within_modify_iff {w w' : σ} {f : σ → σ} {x : Option Unit} :
    Within d w (modify f) w' x ↔ w' = f w ∧ x = some () := by
  simp [modify]

/-- **With no limit, a run up to the limit is a plain run.** -/
theorem within_none_iff {w w' : σ} {p : Fiber σ α} {x : Option α} :
    Within none w p w' x ↔ ∃ a, Ends w p w' a ∧ x = some a := by
  constructor
  · intro h
    induction h with
    | done w a => exact ⟨a, .done w a, rfl⟩
    | read _ ih =>
      obtain ⟨a, h, rfl⟩ := ih
      exact ⟨a, .read h, rfl⟩
    | update _ ih =>
      obtain ⟨a, h, rfl⟩ := ih
      exact ⟨a, .update h, rfl⟩
    | pass hr _ ih =>
      obtain ⟨a, h, rfl⟩ := ih
      exact ⟨a, .pass hr h, rfl⟩
    | wake hr ht hlt _ ih =>
      obtain ⟨a, h, rfl⟩ := ih
      exact ⟨a, .wake hr (by rwa [Wait.earlier_none] at ht) hlt h, rfl⟩
    | stop _ hd _ => cases hd
  · rintro ⟨a, h, rfl⟩
    induction h with
    | done w a => exact .done w a
    | read _ ih => exact .read ih
    | update _ ih => exact .update ih
    | pass hr _ ih => exact .pass hr ih
    | wake hr ht hlt _ ih => exact .wake hr (by rw [Wait.earlier_none, ht]) hlt ih

/-- A run up to a limit is determined by where it starts. -/
theorem Within.unique {w w₁ w₂ : σ} {p : Fiber σ α} {x y : Option α} (h₁ : Within d w p w₁ x)
    (h₂ : Within d w p w₂ y) : w₁ = w₂ ∧ x = y := by
  induction h₁ with
  | done w a =>
    obtain ⟨rfl, rfl⟩ := within_done_iff.mp h₂
    exact ⟨rfl, rfl⟩
  | read _ ih => exact ih (within_read_iff.mp h₂)
  | update _ ih => exact ih (within_update_iff.mp h₂)
  | pass hr _ ih =>
    cases h₂ with
    | pass _ h => exact ih h
    | wake hr' => simp [hr] at hr'
    | stop hr' => simp [hr] at hr'
  | wake hr ht hlt _ ih =>
    cases h₂ with
    | pass hr' => simp [hr] at hr'
    | wake _ ht' _ h =>
      rw [ht] at ht'
      cases ht'
      exact ih h
    | stop _ hd hD =>
      -- the limit is not reached before the timer that wakes the block
      subst hd
      have := Wait.le_of_earlier_some ht
      omega
  | stop hr hd hD =>
    cases h₂ with
    | pass hr' => simp [hr] at hr'
    | wake _ ht hlt =>
      subst hd
      have := Wait.le_of_earlier_some ht
      omega
    | stop => exact ⟨rfl, rfl⟩

/-! ### Runs of a bound fiber -/

theorem Within.bind {p : Fiber σ α} {f : α → Fiber σ β} {w w₁ w₂ : σ} {a : α} {y : Option β}
    (h₁ : Within d w p w₁ (some a)) (h₂ : Within d w₁ (f a) w₂ y) : Within d w (Fiber.bind p f) w₂ y := by
  generalize hx : some a = x at h₁
  induction h₁ with
  | done =>
    cases hx
    exact h₂
  | read _ ih => exact .read (ih h₂ hx)
  | update _ ih => exact .update (ih h₂ hx)
  | pass hr _ ih => exact .pass hr (ih h₂ hx)
  | wake hr ht hlt _ ih => exact .wake hr ht hlt (ih h₂ hx)
  | stop => cases hx

theorem Within.bind_stop {p : Fiber σ α} {f : α → Fiber σ β} {w w' : σ} (h : Within d w p w' none) :
    Within d w (Fiber.bind p f) w' none := by
  generalize hx : (none : Option α) = x at h
  induction h with
  | done => cases hx
  | read _ ih => exact .read (ih hx)
  | update _ ih => exact .update (ih hx)
  | pass hr _ ih => exact .pass hr (ih hx)
  | wake hr ht hlt _ ih => exact .wake hr ht hlt (ih hx)
  | stop hr hd hD => exact .stop hr hd hD

theorem Within.of_bind {p : Fiber σ α} {f : α → Fiber σ β} {w w₂ : σ} {y : Option β}
    (h : Within d w (Fiber.bind p f) w₂ y) :
    (∃ w₁ a, Within d w p w₁ (some a) ∧ Within d w₁ (f a) w₂ y) ∨ (Within d w p w₂ none ∧ y = none) := by
  induction p generalizing w with
  | done a => exact .inl ⟨w, a, .done w a, h⟩
  | read k ih =>
    rcases ih w (within_read_iff.mp h) with ⟨w₁, a, h₁, h₂⟩ | ⟨h₁, rfl⟩
    · exact .inl ⟨w₁, a, .read h₁, h₂⟩
    · exact .inr ⟨.read h₁, rfl⟩
  | update g n ih =>
    rcases ih (within_update_iff.mp h) with ⟨w₁, a, h₁, h₂⟩ | ⟨h₁, rfl⟩
    · exact .inl ⟨w₁, a, .update h₁, h₂⟩
    · exact .inr ⟨.update h₁, rfl⟩
  | block wt n ih =>
    -- the block may be woken several times before its wait is over or the limit stops it
    generalize hq : Fiber.bind (block wt n) f = q at h
    induction h with
    | pass hr h' =>
      cases hq
      rcases ih h' with ⟨w₁, a, h₁, h₂⟩ | ⟨h₁, rfl⟩
      · exact .inl ⟨w₁, a, .pass hr h₁, h₂⟩
      · exact .inr ⟨.pass hr h₁, rfl⟩
    | wake hr ht hlt _ ihw =>
      cases hq
      rcases ihw (fun h => ih h) rfl with ⟨w₁, a, h₁, h₂⟩ | ⟨h₁, rfl⟩
      · exact .inl ⟨w₁, a, .wake hr ht hlt h₁, h₂⟩
      · exact .inr ⟨.wake hr ht hlt h₁, rfl⟩
    | stop hr hd hD =>
      cases hq
      exact .inr ⟨.stop hr hd hD, rfl⟩
    | done => cases hq
    | read => cases hq
    | update => cases hq

/-- **Runs of a bound fiber up to a limit.** `bind p f` runs `p`, then `f` of its value from the
world `p` left; or the limit stops `p`, and with it the whole. -/
theorem within_bind_iff {p : Fiber σ α} {f : α → Fiber σ β} {w w₂ : σ} {y : Option β} :
    Within d w (Fiber.bind p f) w₂ y ↔
      (∃ w₁ a, Within d w p w₁ (some a) ∧ Within d w₁ (f a) w₂ y) ∨ (Within d w p w₂ none ∧ y = none) := by
  refine ⟨Within.of_bind, ?_⟩
  rintro (⟨w₁, a, h₁, h₂⟩ | ⟨h, rfl⟩)
  · exact h₁.bind h₂
  · exact h.bind_stop

/-! ### A race against a timer -/

theorem Ends.within_of_race_forTick {D : Nat} :
    ∀ {p : Fiber σ α} {w w' : σ} {x : α ⊕ Unit},
      Ends w (Fiber.race p (Fiber.block (Wait.forTick D) (Fiber.done ()))) w' x →
        Within (some D) w p w' x.getLeft? := by
  intro p
  induction p with
  | done a =>
    intro w w' x h
    rw [race_done, ends_update_iff, ends_done_iff] at h
    obtain ⟨rfl, rfl⟩ := h
    exact .done _ _
  | read k ih =>
    intro w w' x h
    rw [race_read, ends_read_iff] at h
    exact .read (ih w h)
  | update f n ih =>
    intro w w' x h
    rw [race_update, ends_update_iff] at h
    exact .update (ih h)
  | block wt n ih =>
    intro w w' x h
    rw [race_block_block] at h
    -- time jumps to the earlier of the two timers until one of the waits is over
    generalize hq : block (wt.either (Wait.forTick D)) _ = q at h
    induction h with
    | @pass w₀ _ _ _ _ hr h' =>
      cases hq
      rw [ends_read_iff] at h'
      by_cases hw : wt.ready w₀ = true
      · rw [if_pos hw] at h'
        exact .pass hw (ih h')
      · rw [if_neg hw, race_block_done, ends_update_iff, ends_done_iff] at h'
        obtain ⟨rfl, rfl⟩ := h'
        have hD : D ≤ VirtualClock.now w₀ := by simpa [Wait.either, Wait.forTick, hw] using hr
        exact .stop (by simpa using hw) rfl hD
    | wake hr ht hlt _ ihw =>
      cases hq
      simp only [Wait.either, Bool.or_eq_false_iff] at hr
      exact .wake hr.1 ht hlt (ihw rfl)
    | done => cases hq
    | read => cases hq
    | update => cases hq

theorem Within.ends_race_forTick {D : Nat} {p : Fiber σ α} {w w' : σ} {y : Option α}
    (h : Within (some D) w p w' y) :
    Ends w (Fiber.race p (Fiber.block (Wait.forTick D) (Fiber.done ()))) w' (y.elim (.inr ()) .inl) := by
  induction h with
  | done w a =>
    rw [race_done]
    exact .update (.done _ _)
  | read _ ih =>
    rw [race_read]
    exact .read ih
  | update _ ih =>
    rw [race_update]
    exact .update ih
  | pass hr _ ih =>
    rw [race_block_block]
    exact .pass (by simp [Wait.either, hr]) (.read (by rw [if_pos hr]; exact ih))
  | @wake w₀ _ wt _ _ t hr ht hlt _ ih =>
    rw [race_block_block] at ih ⊢
    -- the timer is not over before the tick that wakes the block
    have htD := Wait.le_of_earlier_some ht
    have hnot : (wt.either (Wait.forTick D)).ready w₀ = false := by
      simp only [Wait.either, Wait.forTick, hr, Bool.false_or, decide_eq_false_iff_not]
      omega
    exact .wake hnot ht hlt ih
  | stop hr hd hD =>
    cases hd
    rw [race_block_block]
    refine .pass (by simp [Wait.either, Wait.forTick, hD]) (.read ?_)
    rw [if_neg (by simp [hr]), race_block_done]
    exact .update (.done _ _)

/-- **A race against a timer is a run up to its tick.** The fiber wins with its value when it
ends by the tick, and loses, dropped where it waits, when the tick comes first. -/
theorem ends_race_forTick_iff {D : Nat} {p : Fiber σ α} {w w' : σ} {x : α ⊕ Unit} :
    Ends w (race p (block (Wait.forTick D) (done ()))) w' x ↔ Within (some D) w p w' x.getLeft? := by
  refine ⟨Ends.within_of_race_forTick, fun h => ?_⟩
  have := h.ends_race_forTick
  cases x <;> exact this

theorem sleep_of_ne_zero {ms : Nat} (hms : ms ≠ 0) :
    (sleep ms : Fiber σ Unit) = read fun w => read fun v =>
      if wakeTick w ms ≤ VirtualClock.now v then done () else block (Wait.forTick (wakeTick w ms)) (done ()) := by
  unfold sleep
  rw [if_neg hms]
  rfl

/-- Against a fiber that keeps the clock, a sleep starts where the race does: the fiber runs
alone up to its first block, and the sleep only then reads the clock. -/
theorem Framed.ends_race_sleep_iff {P : α → Prop} {p : Fiber σ α} (hp : Framed VirtualClock.now P p)
    {ms : Nat} (hms : ms ≠ 0) {w w' : σ} {x : α ⊕ Unit} :
    Ends w (Fiber.race p (sleep ms)) w' x ↔
      Ends w (Fiber.race p (Fiber.block (Wait.forTick (wakeTick w ms)) (Fiber.done ()))) w' x := by
  induction hp generalizing w with
  | done _ =>
    rw [sleep_of_ne_zero hms, race_done, race_done]
    rfl
  | read _ ih => rw [race_read, race_read, ends_read_iff, ends_read_iff, ih]
  | @update f _ hf _ ih =>
    rw [race_update, race_update, ends_update_iff, ends_update_iff, ih, wakeTick, wakeTick, hf]
  | block _ _ _ =>
    rw [sleep_of_ne_zero hms, race_block_read, ends_read_iff, race_block_read, ends_read_iff,
      if_neg (by unfold wakeTick; omega)]

/-- **A fiber that keeps the clock, raced against a sleep, runs up to the sleep's end.** -/
theorem Framed.ends_race_sleep_iff_within {P : α → Prop} {p : Fiber σ α}
    (hp : Framed VirtualClock.now P p) {ms : Nat} (hms : ms ≠ 0) {w w' : σ} {x : α ⊕ Unit} :
    Ends w (Fiber.race p (sleep ms)) w' x ↔
      Within (some (wakeTick w ms)) w p w' x.getLeft? := by
  rw [hp.ends_race_sleep_iff hms, ends_race_forTick_iff]

/-! ### The clock within a limit -/

/-- A fiber that keeps the clock only moves it on by waiting, and never past the limit. -/
theorem Within.now_le {p : Fiber σ α} (hp : Keeps VirtualClock.now p) [LawfulClock σ] {w w' : σ}
    {x : Option α} (h : Within d w p w' x) :
    VirtualClock.now w ≤ VirtualClock.now w' ∧
      (ByLimit d (VirtualClock.now w) → ByLimit d (VirtualClock.now w')) := by
  induction h with
  | done => exact ⟨Nat.le_refl _, id⟩
  | read _ ih =>
    cases hp with
    | read hk => exact ih (hk _)
  | @update w₀ _ f _ _ _ ih =>
    cases hp with
    | update hf hn =>
      rw [← hf w₀]
      exact ih hn
  | pass _ _ ih => exact ih hp.of_block
  | @wake w₀ _ _ _ _ t _ ht hlt _ ih =>
    obtain ⟨hle, hby⟩ := ih hp
    rw [LawfulClock.now_setNow] at hle hby
    refine ⟨by omega, fun _ => hby fun D hD => ?_⟩
    subst hD
    exact Wait.le_of_earlier_some ht
  | @stop w₀ wt _ _ _ _ _ =>
    have hrel : VirtualClock.now (wt.release w₀) = VirtualClock.now w₀ := hp.dropped w₀
    rw [hrel]
    exact ⟨Nat.le_refl _, id⟩

/-- A run that the limit stopped ends at the limit, when the fiber keeps the clock. -/
theorem Within.now_of_stopped {p : Fiber σ α} (hp : Keeps VirtualClock.now p) [LawfulClock σ] {w w' : σ}
    (hw : ByLimit d (VirtualClock.now w)) (h : Within d w p w' none) :
    ∃ D, d = some D ∧ VirtualClock.now w' = D := by
  generalize hx : (none : Option α) = x at h
  induction h with
  | done => cases hx
  | read _ ih =>
    cases hp with
    | read hk => exact ih (hk _) hw hx
  | @update w₀ _ f _ _ _ ih =>
    cases hp with
    | update hf hn => exact ih hn (by rwa [hf w₀]) hx
  | pass _ _ ih => exact ih hp.of_block hw hx
  | @wake w₀ _ _ _ _ t _ ht _ _ ih =>
    refine ih hp (fun D hD => ?_) hx
    subst hD
    rw [LawfulClock.now_setNow]
    exact Wait.le_of_earlier_some ht
  | @stop w₀ wt _ D _ hd hD =>
    have hrel : VirtualClock.now (wt.release w₀) = VirtualClock.now w₀ := hp.dropped w₀
    have := hw D hd
    exact ⟨D, hd, by omega⟩

/-! ### Sleeping within a limit -/

section Sleep

variable [LawfulClock σ]

theorem within_forTick_iff {n : Nat} {w w' : σ} {y : Option Unit} (hn : VirtualClock.now w < n)
    (hw : ByLimit d (VirtualClock.now w)) :
    Within d w (block (Wait.forTick n) (done ())) w' y ↔
      (ByLimit d n ∧ w' = VirtualClock.setNow w n ∧ y = some ()) ∨
        (∃ D, d = some D ∧ D < n ∧ w' = VirtualClock.advanceTo w D ∧ y = none) := by
  have hnot : (Wait.forTick n : Wait σ).ready w = false := by
    simp [Wait.forTick]
    omega
  constructor
  · intro h
    cases h with
    | pass hr => rw [hnot] at hr; cases hr
    | @wake _ _ _ _ _ t _ ht hlt h =>
      -- time jumps to the sleep's tick, or to the limit if that comes first
      cases h with
      | pass hr h =>
        obtain ⟨rfl, rfl⟩ := within_done_iff.mp h
        simp only [Wait.forTick, LawfulClock.now_setNow, decide_eq_true_eq] at hr
        cases d with
        | none =>
          simp only [Wait.forTick, Wait.earlier_none, Option.some.injEq] at ht
          subst ht
          exact .inl ⟨byLimit_none, rfl, rfl⟩
        | some D =>
          have htD := Wait.le_of_earlier_some ht
          have htn : t ≤ n := by
            simp only [Wait.forTick, Wait.earlier, Option.some.injEq] at ht
            omega
          have : t = n := by omega
          subst this
          exact .inl ⟨byLimit_some.mpr htD, rfl, rfl⟩
      | wake _ ht' hlt' =>
        rw [ht] at ht'
        cases ht'
        simp at hlt'
      | @stop _ _ _ D hr hd hD =>
        subst hd
        simp only [Wait.forTick, LawfulClock.now_setNow, decide_eq_false_iff_not] at hr hD
        have htD := Wait.le_of_earlier_some ht
        refine .inr ⟨D, rfl, by omega, ?_, rfl⟩
        rw [VirtualClock.advanceTo_of_lt (by omega), show t = D by omega]
        rfl
    | @stop _ _ _ D _ hd hD =>
      subst hd
      have := byLimit_some.mp hw
      exact .inr ⟨D, rfl, by omega, (VirtualClock.advanceTo_of_le hD).symm, rfl⟩
  · rintro (⟨hby, rfl, rfl⟩ | ⟨D, rfl, hD, rfl, rfl⟩)
    · have ht : Wait.earlier (Wait.forTick n : Wait σ).timer d = some n := by
        cases d with
        | none => rfl
        | some D =>
          simp only [Wait.forTick, Wait.earlier, Option.some.injEq]
          exact Nat.min_eq_left (byLimit_some.mp hby)
      exact .wake hnot ht hn (.pass (by simp [Wait.forTick]) (.done _ _))
    · have hwD := byLimit_some.mp hw
      by_cases hlt : VirtualClock.now w < D
      · rw [VirtualClock.advanceTo_of_lt hlt]
        have ht : Wait.earlier (Wait.forTick n : Wait σ).timer (some D) = some D := by
          simp only [Wait.forTick, Wait.earlier, Option.some.injEq]
          omega
        refine .wake hnot ht hlt ?_
        exact .stop (by simp [Wait.forTick]; omega) rfl (by simp)
      · rw [VirtualClock.advanceTo_of_le (by omega)]
        exact .stop hnot rfl (by omega)

/-- **A sleep within a limit** wakes at its end, when that comes by the limit, and is stopped at
the limit otherwise. -/
theorem within_sleep_iff {ms : Nat} {w w' : σ} {y : Option Unit} (hw : ByLimit d (VirtualClock.now w)) :
    Within d w (sleep ms) w' y ↔
      (ByLimit d (wakeTick w ms) ∧ w' = VirtualClock.advanceTo w (wakeTick w ms) ∧ y = some ()) ∨
        (∃ D, d = some D ∧ D < wakeTick w ms ∧ w' = VirtualClock.advanceTo w D ∧
          y = none) := by
  unfold sleep wakeTick
  split
  · -- no sleep at all: the tick it would wake at has passed
    rename_i h0
    subst h0
    have hle : 2 * (VirtualClock.now w / 2 + 0) ≤ VirtualClock.now w := by omega
    rw [within_done_iff, VirtualClock.advanceTo_of_le hle]
    constructor
    · rintro ⟨rfl, rfl⟩
      exact .inl ⟨hw.mono hle, rfl, rfl⟩
    · rintro (⟨-, rfl, rfl⟩ | ⟨D, rfl, hD, -, -⟩)
      · exact ⟨rfl, rfl⟩
      · have := byLimit_some.mp hw
        omega
  · rename_i h0
    have hn : VirtualClock.now w < 2 * (VirtualClock.now w / 2 + ms) := by omega
    rw [VirtualClock.advanceTo_of_lt hn, ← within_forTick_iff hn hw]
    simp only [within_bind_iff, within_now_iff, waitUntil, waitUntilTick_eq, within_read_iff]
    constructor
    · rintro (⟨_, _, ⟨rfl, h⟩, hw'⟩ | ⟨⟨_, h⟩, _⟩)
      · cases h
        rwa [if_neg (Nat.not_le.mpr hn)] at hw'
      · cases h
    · intro h
      exact .inl ⟨w, _, ⟨rfl, rfl⟩, by rwa [if_neg (Nat.not_le.mpr hn)]⟩

/-- A sleep within a limit, and what follows it. -/
theorem within_sleep_bind_iff {ms : Nat} {g : Unit → Fiber σ α} {w w' : σ} {y : Option α}
    (hw : ByLimit d (VirtualClock.now w)) :
    Within d w (Fiber.bind (sleep ms) g) w' y ↔
      (ByLimit d (wakeTick w ms) ∧ Within d (VirtualClock.advanceTo w (wakeTick w ms)) (g ()) w' y) ∨
        (∃ D, d = some D ∧ D < wakeTick w ms ∧ w' = VirtualClock.advanceTo w D ∧ y = none) := by
  rw [within_bind_iff]
  constructor
  · rintro (⟨w₁, ⟨⟩, hs, hk⟩ | ⟨hs, rfl⟩)
    · rcases (within_sleep_iff hw).mp hs with ⟨hby, rfl, -⟩ | ⟨D, -, -, -, h⟩
      · exact .inl ⟨hby, hk⟩
      · cases h
    · rcases (within_sleep_iff hw).mp hs with ⟨-, -, h⟩ | ⟨D, hD, hlt, rfl, -⟩
      · cases h
      · exact .inr ⟨D, hD, hlt, rfl, rfl⟩
  · rintro (⟨hby, hk⟩ | ⟨D, hD, hlt, rfl, rfl⟩)
    · exact .inl ⟨_, (), (within_sleep_iff hw).mpr (.inl ⟨hby, rfl, rfl⟩), hk⟩
    · exact .inr ⟨(within_sleep_iff hw).mpr (.inr ⟨D, hD, hlt, rfl, rfl⟩), rfl⟩

/-- Out of rounds, a loop hangs until the limit. -/
theorem within_hang_iff [Inhabited α] {w w' : σ} {x : Option α} (hw : ByLimit d (VirtualClock.now w)) :
    Within d w (hang : Fiber σ α) w' x ↔ ∃ D, d = some D ∧ w' = VirtualClock.advanceTo w D ∧ x = none := by
  constructor
  · intro h
    cases h with
    | pass hr => cases hr
    | @wake _ _ _ _ _ t _ ht hlt h =>
      cases d with
      | none => cases ht
      | some D =>
        simp only [Wait.never, Wait.earlier, Option.some.injEq] at ht
        subst ht
        cases h with
        | pass hr => cases hr
        | wake _ ht' hlt' => cases ht'; simp at hlt'
        | stop _ hd _ =>
          cases hd
          exact ⟨_, rfl, (VirtualClock.advanceTo_of_lt hlt).symm, rfl⟩
    | stop _ hd hD =>
      subst hd
      exact ⟨_, rfl, (VirtualClock.advanceTo_of_le hD).symm, rfl⟩
  · rintro ⟨D, rfl, rfl, rfl⟩
    have hwD := byLimit_some.mp hw
    by_cases hlt : VirtualClock.now w < D
    · rw [VirtualClock.advanceTo_of_lt hlt]
      exact .wake rfl rfl hlt (.stop rfl rfl (by simp))
    · rw [VirtualClock.advanceTo_of_le (by omega)]
      exact .stop rfl rfl (by omega)

end Sleep

end Fiber

end ChainWatch
