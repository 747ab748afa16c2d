import ChainWatch.Proofs.Health.Outcomes

/-!
# A window collects its jobs' values in order

`Fiber.window width jobs` runs its jobs side by side, and however their steps interleave it ends
with a value of every job in the order of the list, or with the failure of a job after a value of
each job before it (`Fiber.window_collects`). What is known of a job from its shape
(`Fiber.Gives`) is known of its place in the result, so this holds of every run, whatever the
jobs meet on the way.

The proof is an invariant of the window (`Window.Collects`): the jobs not let in yet are the last
ones of the list, in order; every job let in whose value is not taken yet is running or holds its
value, never both; the values taken are values of the first jobs; and at most `width` jobs are in
the window. Each round keeps it (`Window.Collects.round`), so every window a run goes through
satisfies it (`Window.Reachable.collects`), and the loop of rounds ends as its body allows
(`Fiber.Framed.ends_loop`).
-/

namespace ChainWatch

namespace Fiber

variable {σ α β ν : Type} {view : σ → ν} {P : α → Prop} [VirtualClock σ]

/-- A fiber that waits for ever has no run. -/
theorem not_ends_hang [Inhabited α] {w w' : σ} {a : α} : ¬ Ends w (hang : Fiber σ α) w' a := by
  intro h
  cases h with
  | pass hr => cases hr
  | wake _ ht => cases ht

/-- **A loop ends as its body allows.** When the body keeps an invariant of the loop's state,
every value a run of the loop ends with is a final value the body can give. Unlike
`Framed.loop`, nothing is asked of the value a loop out of rounds would wait on, since that wait
never ends. -/
theorem Framed.ends_loop [Inhabited α] (hclock : ∀ w t, view (VirtualClock.setNow w t) = view w)
    {body : β → Fiber σ (β ⊕ α)} (I : β → Prop)
    (hbody : ∀ b, I b → Framed view (Sum.elim I P) (body b)) :
    ∀ (fuel : Nat) {b : β} {w w' : σ} {a : α}, I b → Ends w (Fiber.loop fuel body b) w' a → P a := by
  intro fuel
  induction fuel with
  | zero => exact fun _ h => absurd h not_ends_hang
  | succ n ih =>
    intro b w w' a hb h
    rw [Fiber.loop] at h
    obtain ⟨w₁, x, hx, hk⟩ := ends_bind_iff.mp h
    have hpost := ((hbody b hb).ends hclock hx).2
    cases x with
    | inl b' => exact ih hpost hk
    | inr a' =>
      obtain ⟨-, rfl⟩ := ends_done_iff.mp hk
      exact hpost

end Fiber

namespace Window

open ChainWatch.Fiber

variable {σ ε α : Type}

/-- The jobs of a list, numbered from zero. -/
def numbered (jobs : List (Fiber σ (Except ε α))) : List (Nat × Fiber σ (Except ε α)) :=
  jobs.zipIdx.map (fun (p, i) => (i, p))

/-- The window a run of `Fiber.window` starts from: every job waiting, nothing taken. -/
def start (jobs : List (Fiber σ (Except ε α))) : Window σ ε α :=
  { waiting := numbered jobs, running := [], due := [], held := [], next := 0, taken := [],
    polled := 0 }

theorem window_eq_loop [Inhabited ε] (width : Nat) (jobs : List (Fiber σ (Except ε α))) :
    Fiber.window width jobs = Fiber.loop (2 * jobs.length + Fiber.rounds) (round width) (start jobs) := rfl

@[simp] theorem length_numbered (jobs : List (Fiber σ (Except ε α))) :
    (numbered jobs).length = jobs.length := by
  simp [numbered]

/-- Once the first `L` jobs are let in, the next to come is job `L`. -/
theorem drop_numbered_eq_cons {jobs : List (Fiber σ (Except ε α))} {L : Nat}
    {j : Nat × Fiber σ (Except ε α)} {js : List (Nat × Fiber σ (Except ε α))}
    (h : (numbered jobs).drop L = j :: js) :
    ∃ hL : L < jobs.length, j = (L, jobs[L]) ∧ js = (numbered jobs).drop (L + 1) := by
  have hL : L < (numbered jobs).length := by
    refine Nat.lt_of_not_le fun hL => ?_
    rw [List.drop_eq_nil_of_le hL] at h
    cases h
  rw [List.drop_eq_getElem_cons hL, List.cons.injEq] at h
  obtain ⟨rfl, rfl⟩ := h
  refine ⟨by simpa using hL, ?_, rfl⟩
  simp [numbered]

theorem drop_numbered_eq_nil {jobs : List (Fiber σ (Except ε α))} {L : Nat}
    (h : (numbered jobs).drop L = []) : jobs.length ≤ L := by
  simpa using List.drop_eq_nil_iff.mp h

theorem mem_filter_fst_ne {β : Type} {l : List (Nat × β)} {i : Nat} {j : Nat × β} :
    j ∈ l.filter (·.1 != i) ↔ j ∈ l ∧ j.1 ≠ i := by
  simp

theorem filter_fst_ne_eq_self {β : Type} {l : List (Nat × β)} {i : Nat} (h : ∀ j ∈ l, j.1 ≠ i) :
    l.filter (·.1 != i) = l :=
  List.filter_eq_self.mpr fun j hj => by simpa using h j hj

/-! ### What a window ends with -/

/-- `as` are values with which the first `as.length` jobs can end, in order, when the `i`-th job
ends only with values satisfying `P i`. -/
def Values (P : Nat → Except ε α → Prop) (as : List α) : Prop :=
  ∀ i (hi : i < as.length), P i (.ok as[i])

theorem Values.concat {P : Nat → Except ε α → Prop} {as : List α} (h : Values P as) {a : α}
    (ha : P as.length (.ok a)) : Values P (as ++ [a]) := by
  intro i hi
  rw [List.length_append, List.length_singleton] at hi
  rcases Nat.lt_succ_iff_lt_or_eq.mp hi with hi | rfl
  · rw [List.getElem_append_left hi]
    exact h i hi
  · simpa using ha

/-- How a window of `k` jobs can end when the `i`-th job ends only with values satisfying `P i`:
with a value of every job, in order, or with the failure of job `j` after a value of each job
before it. -/
def Collected (P : Nat → Except ε α → Prop) (k : Nat) : Except ε (List α) → Prop
  | .ok as => as.length = k ∧ Values P as
  | .error e => ∃ j < k, P j (.error e) ∧ ∃ as : List α, as.length = j ∧ Values P as

/-! ### The invariant -/

/-- The invariant of a window running `jobs`, the first `L` of which were let in, when the `i`-th
job ends only with values satisfying `P i`. -/
structure Collects (jobs : List (Fiber σ (Except ε α))) (P : Nat → Except ε α → Prop)
    (width L : Nat) (st : Window σ ε α) : Prop where
  /-- The jobs not let in yet are the last ones of the list, in order. -/
  waiting : st.waiting = (numbered jobs).drop L
  started : L ≤ jobs.length
  next_le : st.next ≤ L
  /-- A running job was let in, its value is not taken yet, and it gives what the job gives. -/
  running : ∀ j ∈ st.running, st.next ≤ j.1 ∧ j.1 < L ∧ Gives (P j.1) j.2
  /-- A held value was let in, is not taken yet, and is one its job can end with. -/
  held : ∀ j ∈ st.held, st.next ≤ j.1 ∧ j.1 < L ∧ P j.1 j.2
  apart : ∀ j ∈ st.running, ∀ j' ∈ st.held, j.1 ≠ j'.1
  /-- Every job let in whose value is not taken yet is running or holds its value. -/
  covered : ∀ i, st.next ≤ i → i < L → (∃ p, (i, p) ∈ st.running) ∨ ∃ r, (i, r) ∈ st.held
  taken : st.taken.length = st.next
  taken_values : Values P st.taken.reverse
  /-- At most `width` jobs are in the window. -/
  room : st.running.length + st.held.length ≤ width

/-- What a round of a window running `jobs` can end with under the invariant: a window that keeps
it, or the end of the run, as `Collected` says. -/
abbrev RoundCollects (jobs : List (Fiber σ (Except ε α))) (P : Nat → Except ε α → Prop)
    (width : Nat) : Window σ ε α ⊕ Except ε (List α) → Prop :=
  Sum.elim (fun st => ∃ L, Collects jobs P width L st) (Collected P jobs.length)

variable {jobs : List (Fiber σ (Except ε α))} {P : Nat → Except ε α → Prop} {width L : Nat}
  {st : Window σ ε α}

theorem collects_start : Collects jobs P width 0 (start jobs) where
  waiting := rfl
  started := Nat.zero_le _
  next_le := Nat.le_refl 0
  running := by simp [start]
  held := by simp [start]
  apart := by simp [start]
  covered := fun _ _ h => absurd h (Nat.not_lt_zero _)
  taken := rfl
  taken_values := by simp [Values, start]
  room := Nat.zero_le _

/-- The invariant does not read which jobs are due to run. -/
theorem Collects.withDue (h : Collects jobs P width L st) (due : List Nat) (polled : Nat) :
    Collects jobs P width L { st with due := due, polled := polled } :=
  ⟨h.waiting, h.started, h.next_le, h.running, h.held, h.apart, h.covered, h.taken,
    h.taken_values, h.room⟩

/-- Letting the next job in, when there is room, keeps the invariant with one more job in. -/
theorem Collects.letIn (h : Collects jobs P width L st) (hL : L < jobs.length)
    (hp : Gives (P L) jobs[L]) (hfree : st.running.length + st.held.length < width) :
    Collects jobs P width (L + 1)
      { st with waiting := (numbered jobs).drop (L + 1), running := st.running ++ [(L, jobs[L])],
                due := st.due ++ [L] } where
  waiting := rfl
  started := hL
  next_le := Nat.le_succ_of_le h.next_le
  running := by
    intro j hj
    rcases List.mem_append.mp hj with hj | hj
    · obtain ⟨hle, hlt, hg⟩ := h.running j hj
      exact ⟨hle, Nat.lt_succ_of_lt hlt, hg⟩
    · rw [List.mem_singleton.mp hj]
      exact ⟨h.next_le, Nat.lt_succ_self L, hp⟩
  held := fun j hj =>
    let ⟨hle, hlt, hr⟩ := h.held j hj
    ⟨hle, Nat.lt_succ_of_lt hlt, hr⟩
  apart := by
    intro j hj j' hj'
    rcases List.mem_append.mp hj with hj | hj
    · exact h.apart j hj j' hj'
    · rw [List.mem_singleton.mp hj]
      exact (Nat.ne_of_lt (h.held j' hj').2.1).symm
  covered := by
    intro i hi hiL
    rcases Nat.lt_succ_iff_lt_or_eq.mp hiL with hiL | rfl
    · rcases h.covered i hi hiL with ⟨p, hp⟩ | hr
      · exact .inl ⟨p, List.mem_append_left _ hp⟩
      · exact .inr hr
    · exact .inl ⟨jobs[i], List.mem_append_right _ (List.mem_singleton_self _)⟩
  taken := h.taken
  taken_values := h.taken_values
  room := by
    simp only [List.length_append, List.length_singleton]
    omega

/-- Putting back what is left of a running job keeps the invariant, when it gives what the job
gives. -/
theorem Collects.replace (h : Collects jobs P width L st) {i : Nat} {p : Fiber σ (Except ε α)}
    (hp : Gives (P i) p) :
    Collects jobs P width L
      { st with running := st.running.map (fun jq => if jq.1 = i then (jq.1, p) else jq) } where
  waiting := h.waiting
  started := h.started
  next_le := h.next_le
  running := by
    intro j hj
    obtain ⟨⟨k, q⟩, hk, rfl⟩ := List.mem_map.mp hj
    obtain ⟨hle, hlt, hq⟩ := h.running _ hk
    by_cases hki : k = i
    · subst hki
      simpa using ⟨hle, hlt, hp⟩
    · simpa [hki] using ⟨hle, hlt, hq⟩
  held := h.held
  apart := by
    intro j hj j' hj'
    obtain ⟨⟨k, q⟩, hk, rfl⟩ := List.mem_map.mp hj
    have := h.apart _ hk j' hj'
    split <;> exact this
  covered := by
    intro x hx hxL
    rcases h.covered x hx hxL with ⟨q, hq⟩ | hr
    · by_cases hxi : x = i
      · exact .inl ⟨p, List.mem_map.mpr ⟨(x, q), hq, by simp [hxi]⟩⟩
      · exact .inl ⟨q, List.mem_map.mpr ⟨(x, q), hq, by simp [hxi]⟩⟩
    · exact .inr hr
  taken := h.taken
  taken_values := h.taken_values
  room := by simpa using h.room

/-- A failure of the next job ends the window as `Collected` says. -/
theorem Collects.collected_error (h : Collects jobs P width L st) (hnext : st.next < L) {e : ε}
    (he : P st.next (.error e)) : Collected P jobs.length (.error e) :=
  ⟨st.next, Nat.lt_of_lt_of_le hnext h.started, he, st.taken.reverse, by simp [h.taken],
    h.taken_values⟩

/-- Taking the value of the next job keeps the invariant, once the job is out of the window. -/
theorem Collects.take (h : Collects jobs P width L st) (hnext : st.next < L) {r : Except ε α}
    (hr : P st.next r) {st' : Window σ ε α} (hwaiting : st'.waiting = st.waiting)
    (hn : st'.next = st.next) (ht : st'.taken = st.taken)
    (hrunning : st'.running = st.running.filter (·.1 != st.next))
    (hheld : st'.held = st.held.filter (·.1 != st.next)) :
    Gives (RoundCollects jobs P width) (st'.take r) := by
  cases r with
  | error e => exact .update (fun _ => rfl) (.done (h.collected_error hnext hr))
  | ok a =>
    obtain ⟨_, _, _, _, _, _, _⟩ := st'
    dsimp only at hwaiting hn ht hrunning hheld
    subst hwaiting hn ht hrunning hheld
    refine .done ⟨L, h.waiting, h.started, hnext, ?_, ?_, ?_, ?_, ?_, ?_, ?_⟩ <;> dsimp only
    · intro j hj
      obtain ⟨hj, hne⟩ := mem_filter_fst_ne.mp hj
      obtain ⟨hle, hlt, hg⟩ := h.running j hj
      exact ⟨by omega, hlt, hg⟩
    · intro j hj
      obtain ⟨hj, hne⟩ := mem_filter_fst_ne.mp hj
      obtain ⟨hle, hlt, hr⟩ := h.held j hj
      exact ⟨by omega, hlt, hr⟩
    · intro j hj j' hj'
      exact h.apart j (mem_filter_fst_ne.mp hj).1 j' (mem_filter_fst_ne.mp hj').1
    · intro i hi hiL
      rcases h.covered i (by omega) hiL with ⟨p, hp⟩ | ⟨r, hr⟩
      · exact .inl ⟨p, mem_filter_fst_ne.mpr ⟨hp, by dsimp only; omega⟩⟩
      · exact .inr ⟨r, mem_filter_fst_ne.mpr ⟨hr, by dsimp only; omega⟩⟩
    · simp [h.taken]
    · rw [List.reverse_cons]
      refine h.taken_values.concat ?_
      rwa [List.length_reverse, h.taken]
    · have := h.room
      have := List.length_filter_le (·.1 != st.next) st.running
      have := List.length_filter_le (·.1 != st.next) st.held
      omega

/-- What a run of a job in the window leads to keeps the invariant, when what is left of the job
gives what the job gives. -/
theorem Collects.afterRun (h : Collects jobs P width L st) {i : Nat} {q : Fiber σ (Except ε α)}
    (hq : (i, q) ∈ st.running) (rest : List Nat) {p : Fiber σ (Except ε α)} (hp : Gives (P i) p) :
    Gives (RoundCollects jobs P width) (st.afterRun i rest p) := by
  obtain ⟨hi, hiL, -⟩ := h.running _ hq
  have hheld : ∀ j ∈ st.held, j.1 ≠ i := fun j hj => (h.apart _ hq j hj).symm
  unfold Window.afterRun
  split
  · -- the job ended: its value is taken if its turn has come, else held
    rename_i r
    have hr : P i r := framed_done_iff.mp hp
    dsimp only
    split
    · rename_i hnext
      subst hnext
      exact h.take (by omega) hr rfl rfl rfl rfl (filter_fst_ne_eq_self hheld).symm
    · rename_i hnext
      refine .done ⟨L, h.waiting, h.started, h.next_le, ?_, ?_, ?_, ?_, h.taken, h.taken_values, ?_⟩
      · exact fun j hj => h.running j (mem_filter_fst_ne.mp hj).1
      · intro j hj
        rcases List.mem_cons.mp hj with rfl | hj
        · exact ⟨hi, hiL, hr⟩
        · exact h.held j hj
      · intro j hj j' hj'
        rcases List.mem_cons.mp hj' with rfl | hj'
        · exact (mem_filter_fst_ne.mp hj).2
        · exact h.apart j (mem_filter_fst_ne.mp hj).1 j' hj'
      · intro x hx hxL
        by_cases hxi : x = i
        · exact .inr ⟨r, by simp [hxi]⟩
        · rcases h.covered x hx hxL with ⟨q', hq'⟩ | ⟨r', hr'⟩
          · exact .inl ⟨q', mem_filter_fst_ne.mpr ⟨hq', hxi⟩⟩
          · exact .inr ⟨r', List.mem_cons_of_mem _ hr'⟩
      · -- the job's room is now its value's
        have hlt : (st.running.filter (·.1 != i)).length < st.running.length :=
          List.length_filter_lt_length_iff_exists.mpr ⟨(i, q), hq, by simp⟩
        have := h.room
        simp only [List.length_cons]
        omega
  · -- the job blocked and stays in the window as it now is
    dsimp only
    split
    · exact .block (fun _ => rfl) (.done ⟨L, (h.replace hp).withDue rest 0⟩)
    · exact .done ⟨L, (h.replace hp).withDue rest (st.polled + 1)⟩

/-- A window with nothing running and no value of its next job held, which lets no more jobs
in, has taken a value of every job. -/
theorem Collects.collected_all (h : Collects jobs P width L st) (hw : 0 < width)
    (hroom : st.waiting = [] ∨ width ≤ st.running.length + st.held.length)
    (hrunning : st.running = []) (hnone : st.held.find? (·.1 = st.next) = none) :
    Collected P jobs.length (.ok st.taken.reverse) := by
  -- the next job is neither running nor held, so it was never let in
  have hL : st.next = L := by
    refine Nat.le_antisymm h.next_le (Nat.not_lt.mp fun hlt => ?_)
    rcases h.covered st.next (Nat.le_refl _) hlt with ⟨p, hp⟩ | ⟨r, hr⟩
    · simp [hrunning] at hp
    · exact List.find?_eq_none.mp hnone _ hr (by simp)
  -- so no value is held, the window has room, and every job was let in
  have hheld : st.held = [] := by
    refine List.eq_nil_iff_forall_not_mem.mpr fun j hj => ?_
    have := h.held j hj
    omega
  have hall : jobs.length ≤ L := by
    rcases hroom with hwait | hfull
    · exact drop_numbered_eq_nil (h.waiting ▸ hwait)
    · simp only [hrunning, hheld, List.length_nil] at hfull
      omega
  refine ⟨?_, h.taken_values⟩
  have := h.started
  rw [List.length_reverse, h.taken]
  omega

theorem Collects.afterRoom (h : Collects jobs P width L st) (hw : 0 < width)
    (hroom : st.waiting = [] ∨ width ≤ st.running.length + st.held.length) :
    Gives (RoundCollects jobs P width) (round.afterRoom st) := by
  unfold round.afterRoom
  split
  · -- the held value whose turn it is is taken
    rename_i i r hfind
    have hmem := List.mem_of_find?_eq_some hfind
    have hi : i = st.next := by simpa using List.find?_some hfind
    subst hi
    obtain ⟨-, hlt, hr⟩ := h.held _ hmem
    exact h.take hlt hr rfl rfl rfl
      (filter_fst_ne_eq_self fun j hj => h.apart j hj _ hmem).symm rfl
  · rename_i hnone
    split
    · -- the first due job runs, if it is still in the window
      rename_i i rest hdue
      split
      · rename_i k p hfind
        have hmem := List.mem_of_find?_eq_some hfind
        have hk : k = i := by simpa using List.find?_some hfind
        subst hk
        exact (h.running _ hmem).2.2.resume.bind fun _ hp => h.afterRun hmem rest hp
      · exact .done ⟨L, h.withDue rest st.polled⟩
    · split
      · -- nothing is running: the run ends with every value
        rename_i hempty
        exact .done (h.collected_all hw hroom (List.isEmpty_iff.mp hempty) hnone)
      · exact .block (fun _ => rfl) (.read fun _ => .done ⟨L, h.withDue _ 0⟩)

/-- **One round keeps the invariant**, when every job gives what `P` says of it. -/
theorem Collects.round (h : Collects jobs P width L st) (hw : 0 < width)
    (hjobs : ∀ i (hi : i < jobs.length), Gives (P i) jobs[i]) :
    Gives (RoundCollects jobs P width) (round width st) := by
  unfold Window.round
  split
  · rename_i j js hwait
    split
    · -- the next job is let in
      rename_i hfree
      obtain ⟨hL, rfl, rfl⟩ := drop_numbered_eq_cons (h.waiting ▸ hwait)
      exact .done ⟨L + 1, h.letIn hL (hjobs L hL) hfree⟩
    · exact h.afterRoom hw (.inr (by omega))
  · exact h.afterRoom hw (.inl ‹_›)

variable [VirtualClock σ]

/-- The windows a run of `Fiber.window width jobs` goes through. -/
inductive Reachable (width : Nat) (jobs : List (Fiber σ (Except ε α))) : Window σ ε α → Prop
  | start : Reachable width jobs (start jobs)
  | round {st st' : Window σ ε α} {w w' : σ} :
      Reachable width jobs st → Ends w (round width st) w' (.inl st') → Reachable width jobs st'

/-- **Every window a run goes through keeps the invariant.** -/
theorem Reachable.collects (hw : 0 < width)
    (hjobs : ∀ i (hi : i < jobs.length), Gives (P i) jobs[i]) (h : Reachable width jobs st) :
    ∃ L, Collects jobs P width L st := by
  induction h with
  | start => exact ⟨0, collects_start⟩
  | round _ he ih =>
    obtain ⟨L, hL⟩ := ih
    exact (hL.round hw hjobs).ends he

/-- **A window holds at most `width` jobs and lets them in in the order of the list.** -/
theorem Reachable.bounded (hw : 0 < width) (h : Reachable width jobs st) :
    st.running.length + st.held.length ≤ width ∧ ∃ L, st.waiting = (numbered jobs).drop L :=
  let ⟨L, hL⟩ := h.collects (P := fun _ _ => True) hw fun i _ => gives_true jobs[i]
  ⟨hL.room, L, hL.waiting⟩

end Window

/-- **A window collects its jobs' values in order.** However the jobs' steps interleave, a run of
the window ends with a value of every job, in the order of the list, or with the failure of a job
after a value of each job before it, and each is a value its job can end with. -/
theorem Fiber.window_collects {σ ε α : Type} [VirtualClock σ] [Inhabited ε] {width : Nat}
    (hw : 0 < width) {jobs : List (Fiber σ (Except ε α))} {P : Nat → Except ε α → Prop}
    (hjobs : ∀ i (hi : i < jobs.length), Fiber.Gives (P i) jobs[i]) {w w' : σ}
    {r : Except ε (List α)} (h : Fiber.Ends w (Fiber.window width jobs) w' r) :
    Window.Collected P jobs.length r := by
  rw [Window.window_eq_loop] at h
  exact Fiber.Framed.ends_loop (fun _ _ => rfl) (fun st => ∃ L, Window.Collects jobs P width L st)
    (fun _ ⟨_, hst⟩ => hst.round hw hjobs) _ ⟨0, Window.collects_start⟩ h

end ChainWatch
