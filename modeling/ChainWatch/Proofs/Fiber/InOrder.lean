import ChainWatch.Proofs.Fiber.Collect

/-!
# A window of jobs that never block

A fiber that never blocks (`Fiber.Instant`) only reads and changes the world until it ends, so it
ends from every world (`Fiber.Instant.exists_ends`), and run up to its next block it runs to its
end (`Fiber.Instant.ends_advance`).

A window of such jobs runs them one after another. When a job's turn comes it is the first due
job, it runs to its end at once, and its value is the next to be taken; only then is another job
let in or run. So the window ends from every world, exactly as its jobs run one after another in
the order of the list, each from the world the one before it left, up to the first failure
(`Fiber.RunsInOrder`, `Fiber.ends_window_iff`).

The proof follows the rounds of the loop with the shape of such a window (`Window.InOrder`): the
jobs from the next one on, none of them started, are running and due in order, or waiting, and
nothing is held. A round lets the next job in (`Window.InOrder.round_letIn`), or runs the first
running job to its end and takes its value (`Window.InOrder.ends_round_ended`) or its failure
(`Window.InOrder.ends_round_failed`), or ends the run when no job is left
(`Window.InOrder.ends_round_finished`); each job takes two rounds (`Window.roundsLeft`), which the
loop has.
-/

namespace ChainWatch

namespace Fiber

/-- A fiber that never blocks: it reads and changes the world until it ends. -/
inductive Instant {σ α : Type} : Fiber σ α → Prop
  | done (a : α) : Instant (.done a)
  | read {k : σ → Fiber σ α} : (∀ w, Instant (k w)) → Instant (.read k)
  | update {f : σ → σ} {n : Fiber σ α} : Instant n → Instant (.update f n)

section Instant

variable {σ α β : Type}

theorem Instant.bind {p : Fiber σ α} {f : α → Fiber σ β} (hp : Instant p)
    (hf : ∀ a, Instant (f a)) : Instant (p.bind f) := by
  induction hp with
  | done a => exact hf a
  | read _ ih => exact .read ih
  | update _ ih => exact .update ih

theorem Instant.resume_eq {p : Fiber σ α} (hp : Instant p) : resume p = advance p := by
  cases hp <;> rfl

/-- A fiber that never blocked gives nothing back when it is dropped. -/
theorem Instant.dropped_eq {p : Fiber σ α} (hp : Instant p) : p.dropped = id := by
  cases hp <;> rfl

theorem droppedAll_of_instant : ∀ {ps : List (Fiber σ α)}, (∀ p ∈ ps, Instant p) → droppedAll ps = id
  | [], _ => rfl
  | p :: ps, h => by
    funext w
    show droppedAll ps (p.dropped w) = w
    rw [(h p (by simp)).dropped_eq, droppedAll_of_instant fun q hq => h q (by simp [hq])]
    rfl

variable [VirtualClock σ]

/-- Run up to its next block, a fiber that never blocks runs to its end. -/
theorem Instant.ends_advance {p : Fiber σ α} (hp : Instant p) {w w' : σ} {a : α}
    (h : Ends w p w' a) : Ends w (advance p) w' (.done a) := by
  induction hp generalizing w with
  | done b =>
    obtain ⟨rfl, rfl⟩ := ends_done_iff.mp h
    exact .done _ _
  | read _ ih =>
    cases h with
    | read h => exact .read (ih w h)
  | update _ ih =>
    cases h with
    | update h => exact .update (ih h)

end Instant

section InOrder

variable {σ ε α : Type} [VirtualClock σ]

/-- The jobs `ps`, run one after another from `w`, each from the world the one before it left,
end in `w'` with `r`: with the values of all of them, in order, or with the failure of the first
one that fails, after which no job runs. -/
inductive RunsInOrder : σ → List (Fiber σ (Except ε α)) → σ → Except ε (List α) → Prop
  | nil (w : σ) : RunsInOrder w [] w (.ok [])
  | failed {w w₁ : σ} {p : Fiber σ (Except ε α)} {ps : List (Fiber σ (Except ε α))} {e : ε} :
      Ends w p w₁ (.error e) → RunsInOrder w (p :: ps) w₁ (.error e)
  | ended {w w₁ w₂ : σ} {p : Fiber σ (Except ε α)} {ps : List (Fiber σ (Except ε α))} {a : α}
      {r : Except ε (List α)} :
      Ends w p w₁ (.ok a) → RunsInOrder w₁ ps w₂ r → RunsInOrder w (p :: ps) w₂ (r.map (a :: ·))

end InOrder

end Fiber

namespace Window

open ChainWatch.Fiber

variable {σ ε α : Type}

/-- The jobs from the `m`-th on are numbered from `m` on. -/
theorem le_of_mem_drop_numbered {jobs : List (Fiber σ (Except ε α))} {m : Nat}
    {j : Nat × Fiber σ (Except ε α)} (hj : j ∈ (numbered jobs).drop m) : m ≤ j.1 := by
  obtain ⟨k, hk, rfl⟩ := List.mem_iff_getElem.mp hj
  simp [numbered]

theorem instant_of_mem_numbered {jobs : List (Fiber σ (Except ε α))}
    (hjobs : ∀ p ∈ jobs, Instant p) {j : Nat × Fiber σ (Except ε α)} (hj : j ∈ numbered jobs) :
    Instant j.2 := by
  obtain ⟨⟨p, i⟩, hp, rfl⟩ := List.mem_map.mp hj
  exact hjobs p (List.fst_mem_of_mem_zipIdx hp)

/-- The rounds the jobs of a window still take when none of them blocks: one to run each running
job, two to let in and run each waiting one. -/
def roundsLeft (st : Window σ ε α) : Nat := st.running.length + 2 * st.waiting.length

/-- A window in which the jobs from the `n`-th on, none of them started, are running and due in
the order of the list, or waiting, and nothing is held. -/
structure InOrder (jobs : List (Fiber σ (Except ε α))) (n : Nat) (st : Window σ ε α) : Prop where
  jobs_eq : st.running ++ st.waiting = (numbered jobs).drop n
  due_eq : st.due = st.running.map (·.1)
  held_eq : st.held = []
  next_eq : st.next = n

section Rounds

variable {jobs : List (Fiber σ (Except ε α))} {n width : Nat} {st : Window σ ε α}

/-- Every job in the window is one of the jobs. -/
theorem InOrder.instant_fibers (h : InOrder jobs n st) (hjobs : ∀ p ∈ jobs, Instant p) :
    ∀ q ∈ st.fibers, Instant q := by
  intro q hq
  obtain ⟨j, hj, rfl⟩ := List.mem_map.mp hq
  have hmem : j ∈ (numbered jobs).drop n := h.jobs_eq ▸ List.mem_append_left _ hj
  exact instant_of_mem_numbered hjobs (List.mem_of_mem_drop hmem)

/-- With room in the window, a round lets the next job in. -/
theorem InOrder.round_letIn (h : InOrder jobs n st) {j : Nat × Fiber σ (Except ε α)}
    {js : List (Nat × Fiber σ (Except ε α))} (hw : st.waiting = j :: js)
    (hroom : st.running.length < width) :
    ∃ st₁, round width st = .done (.inl st₁) ∧ InOrder jobs n st₁ ∧ st₁.taken = st.taken ∧
      roundsLeft st₁ + 1 = roundsLeft st := by
  refine ⟨{ st with waiting := js, running := st.running ++ [j], due := st.due ++ [j.1] },
    ?_, ⟨?_, ?_, h.held_eq, h.next_eq⟩, rfl, ?_⟩
  · simp [round, hw, h.held_eq, hroom]
  · simpa [hw] using h.jobs_eq
  · simp [h.due_eq]
  · simp only [roundsLeft, List.length_append, List.length_cons, List.length_nil, hw]
    omega

/-- Without room in the window, or with no job waiting, a round does what it does once no job can
be let in. -/
theorem InOrder.round_eq_afterRoom (h : InOrder jobs n st)
    (hfull : st.waiting = [] ∨ width ≤ st.running.length) : round width st = round.afterRoom st := by
  unfold round
  split
  · rename_i j js hw
    have hfull : width ≤ st.running.length := by simpa [hw] using hfull
    rw [if_neg (by simp [h.held_eq]; omega)]
  · rfl

/-- The first running job is the next one, and is run when no job can be let in. -/
theorem InOrder.round_eq_run (h : InOrder jobs n st)
    (hfull : st.waiting = [] ∨ width ≤ st.running.length) {p : Fiber σ (Except ε α)}
    {R : List (Nat × Fiber σ (Except ε α))} (hrun : st.running = (n, p) :: R) :
    round width st = Fiber.bind (resume p) (st.afterRun n (R.map (·.1))) := by
  rw [h.round_eq_afterRoom hfull]
  simp [round.afterRoom, h.held_eq, h.due_eq, hrun]

/-- The first running job is the next one, and the jobs after it in the window and waiting are the
later ones, in order. -/
theorem InOrder.running_cons (h : InOrder jobs n st) {i : Nat} {p : Fiber σ (Except ε α)}
    {R : List (Nat × Fiber σ (Except ε α))} (hrun : st.running = (i, p) :: R) :
    ∃ hn : n < jobs.length, i = n ∧ p = jobs[n] ∧ R ++ st.waiting = (numbered jobs).drop (n + 1) := by
  have hd : (numbered jobs).drop n = (i, p) :: (R ++ st.waiting) := by
    rw [← h.jobs_eq, hrun]
    rfl
  obtain ⟨hn, hj, hrest⟩ := drop_numbered_eq_cons hd
  obtain ⟨rfl, rfl⟩ := Prod.mk.inj hj
  exact ⟨hn, rfl, rfl, hrest⟩

theorem InOrder.filter_running (h : InOrder jobs n st) {p : Fiber σ (Except ε α)}
    {R : List (Nat × Fiber σ (Except ε α))} (hrun : st.running = (n, p) :: R) :
    st.running.filter (·.1 != n) = R := by
  obtain ⟨-, -, -, hrest⟩ := h.running_cons hrun
  -- the jobs after the first are numbered past it
  have hlater : ∀ j ∈ R, j.1 ≠ n := fun j hj =>
    Nat.ne_of_gt (le_of_mem_drop_numbered (hrest ▸ List.mem_append_left _ hj))
  rw [hrun, List.filter_cons, if_neg (by simp), filter_fst_ne_eq_self hlater]

/-- The window once the first running job ended with `a` and its value was taken. -/
theorem InOrder.next (h : InOrder jobs n st) {p : Fiber σ (Except ε α)}
    {R : List (Nat × Fiber σ (Except ε α))} (hrun : st.running = (n, p) :: R) (a : α) :
    InOrder jobs (n + 1)
      { st with running := R, due := R.map (·.1), next := n + 1, taken := a :: st.taken, polled := 0 } :=
  ⟨(h.running_cons hrun).2.2.2, rfl, h.held_eq, rfl⟩

/-- With no job running and none waiting, every job has run. -/
theorem InOrder.drop_eq_nil (h : InOrder jobs n st) (hrun : st.running = []) (hwait : st.waiting = []) :
    jobs.drop n = [] := by
  have hjobs_eq := h.jobs_eq
  rw [hrun, hwait, List.nil_append] at hjobs_eq
  exact List.drop_eq_nil_of_le (drop_numbered_eq_nil hjobs_eq.symm)

variable [VirtualClock σ]

/-- A round that runs the first running job to its end with a value takes that value. -/
theorem InOrder.ends_round_ended (h : InOrder jobs n st)
    (hfull : st.waiting = [] ∨ width ≤ st.running.length) {p : Fiber σ (Except ε α)}
    {R : List (Nat × Fiber σ (Except ε α))} (hrun : st.running = (n, p) :: R) (hp : Instant p)
    {w w₁ : σ} {a : α} (he : Ends w p w₁ (.ok a)) :
    Ends w (round width st) w₁
      (.inl { st with running := R, due := R.map (·.1), next := n + 1, taken := a :: st.taken,
                      polled := 0 }) := by
  rw [h.round_eq_run hfull hrun, hp.resume_eq]
  refine (hp.ends_advance he).bind ?_
  simp [afterRun, take, h.filter_running hrun, h.next_eq]

/-- A round that runs the first running job to a failure ends the run with it; the jobs left in
the window never started and give nothing back. -/
theorem InOrder.ends_round_failed (h : InOrder jobs n st) (hjobs : ∀ p ∈ jobs, Instant p)
    (hfull : st.waiting = [] ∨ width ≤ st.running.length) {p : Fiber σ (Except ε α)}
    {R : List (Nat × Fiber σ (Except ε α))} (hrun : st.running = (n, p) :: R) {w w₁ : σ} {e : ε}
    (he : Ends w p w₁ (.error e)) : Ends w (round width st) w₁ (.inr (.error e)) := by
  have hfibers := h.instant_fibers hjobs
  rw [fibers, hrun, List.map_cons] at hfibers
  have hp : Instant p := hfibers p (by simp)
  have hdropped : droppedAll (R.map (·.2)) = id :=
    droppedAll_of_instant fun q hq => hfibers q (List.mem_cons_of_mem _ hq)
  rw [h.round_eq_run hfull hrun, hp.resume_eq]
  refine (hp.ends_advance he).bind ?_
  simp [afterRun, take, fibers, h.filter_running hrun, h.next_eq, hdropped]

/-- With no job left, a round ends the run with the values taken. -/
theorem InOrder.ends_round_finished (h : InOrder jobs n st) (hrun : st.running = [])
    (hwait : st.waiting = []) (w : σ) : Ends w (round width st) w (.inr (.ok st.taken.reverse)) := by
  rw [h.round_eq_afterRoom (.inl hwait)]
  simp [round.afterRoom, h.held_eq, h.due_eq, hrun]

/-- **A loop of rounds over such a window runs its jobs in order.** From a window in this shape
with more rounds left than its jobs take, the loop ends as the jobs from the `n`-th on run one
after another, after the values already taken; by induction on the rounds left, each round being
one of the four above. -/
theorem InOrder.ends_loop [Inhabited ε] (hw : 0 < width) (hjobs : ∀ p ∈ jobs, Instant p) :
    ∀ (fuel : Nat) {n : Nat} {st : Window σ ε α} {w w' : σ} {r : Except ε (List α)},
      InOrder jobs n st → roundsLeft st < fuel → RunsInOrder w (jobs.drop n) w' r →
      Ends w (Fiber.loop fuel (round width) st) w' (r.map (st.taken.reverse ++ ·)) := by
  intro fuel
  induction fuel with
  | zero => exact fun _ hlt _ => absurd hlt (Nat.not_lt_zero _)
  | succ k ih =>
    intro n st w w' r h hlt hrun
    rw [Fiber.loop]
    by_cases hroom : ∃ j js, st.waiting = j :: js ∧ st.running.length < width
    · -- the next job is let in, and nothing runs
      obtain ⟨j, js, hwj, hlen⟩ := hroom
      obtain ⟨st₁, hround, h₁, htaken, hleft⟩ := h.round_letIn hwj hlen
      rw [hround, ← htaken]
      exact ih h₁ (by omega) hrun
    have hfull : st.waiting = [] ∨ width ≤ st.running.length := by
      cases hws : st.waiting with
      | nil => exact .inl rfl
      | cons j js => exact .inr (Nat.le_of_not_lt fun hlen => hroom ⟨j, js, hws, hlen⟩)
    cases hR : st.running with
    | nil =>
      -- nothing runs, so nothing waits either: every job has run
      have hwait : st.waiting = [] := hfull.resolve_right (by rw [hR, List.length_nil]; omega)
      rw [h.drop_eq_nil hR hwait] at hrun
      cases hrun
      refine (h.ends_round_finished hR hwait w).bind ?_
      simp [Except.map]
    | cons j R =>
      -- the first running job is the next one, and runs to its end
      obtain ⟨i, p⟩ := j
      obtain ⟨hn, hi, hpj, -⟩ := h.running_cons hR
      subst hpj
      rw [hi] at hR
      rw [List.drop_eq_getElem_cons hn] at hrun
      cases hrun with
      | failed he => exact (h.ends_round_failed hjobs hfull hR he).bind (.done _ _)
      | @ended _ w₁ _ _ _ a r' he hrest =>
        have hp : Instant jobs[n] := hjobs _ (List.getElem_mem hn)
        have hleft : roundsLeft
            { st with running := R, due := R.map (·.1), next := n + 1, taken := a :: st.taken,
                      polled := 0 } < k := by
          simp only [roundsLeft, hR, List.length_cons] at hlt ⊢
          omega
        have hr : (r'.map (a :: ·)).map (st.taken.reverse ++ ·) =
            r'.map ((a :: st.taken).reverse ++ ·) := by
          cases r' <;> simp [Except.map]
        rw [hr]
        exact (h.ends_round_ended hfull hR hp he).bind (ih (h.next hR a) hleft hrest)

end Rounds

end Window

end ChainWatch
