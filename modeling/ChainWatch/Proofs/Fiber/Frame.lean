import ChainWatch.Sim.Window
import ChainWatch.Proofs.Fiber.Ends

/-!
# What a fiber leaves alone

`Fiber.Framed view post p` says that every change `p` makes to the world keeps `view` as it was,
so does what `p` gives back when it is dropped while it waits, and every value `p` can end with
satisfies `post`. `Fiber.Keeps view p` is the case with no condition on the values.

Both are read off the shape of the fiber, with no run in them, so they hold of every stretch of
the fiber whatever runs beside it, and a fiber made of framed parts is framed: `Framed.bind`,
`Framed.firstDone`, `Framed.race`, `Keeps.bothOrFail`, `Keeps.loop` (with an invariant of the
loop's state) and `Keeps.window` (the invariant: every job of the window keeps the view).
-/

namespace ChainWatch

namespace Fiber

variable {σ α β γ ν : Type}

/-- `p` keeps `view` at every change it makes and at every drop while it waits, and every value
it can end with satisfies `post`. -/
inductive Framed (view : σ → ν) (post : α → Prop) : Fiber σ α → Prop
  | done {a : α} : post a → Framed view post (done a)
  | read {k : σ → Fiber σ α} : (∀ w, Framed view post (k w)) → Framed view post (read k)
  | update {f : σ → σ} {n : Fiber σ α} :
      (∀ w, view (f w) = view w) → Framed view post n → Framed view post (update f n)
  | block {wt : Wait σ} {n : Fiber σ α} :
      (∀ w, view (wt.release w) = view w) → Framed view post n → Framed view post (block wt n)

/-- `p` keeps `view` at every change it makes and at every drop while it waits. -/
abbrev Keeps (view : σ → ν) (p : Fiber σ α) : Prop := Framed view (fun _ => True) p

variable {view : σ → ν} {P : α → Prop} {Q : β → Prop}

/-! ### One node at a time -/

@[simp] theorem framed_done_iff {a : α} : Framed view P (Fiber.done a) ↔ P a :=
  ⟨fun h => by cases h; assumption, .done⟩

theorem Framed.of_block {wt : Wait σ} {n : Fiber σ α} (h : Framed view P (Fiber.block wt n)) :
    Framed view P n := by
  cases h with
  | block _ hn => exact hn

theorem Framed.mono {P' : α → Prop} (hP : ∀ a, P a → P' a) {p : Fiber σ α}
    (h : Framed view P p) : Framed view P' p := by
  induction h with
  | done ha => exact .done (hP _ ha)
  | read _ ih => exact .read ih
  | update hf _ ih => exact .update hf ih
  | block hr _ ih => exact .block hr ih

theorem Framed.keeps {p : Fiber σ α} (h : Framed view P p) : Keeps view p :=
  h.mono fun _ _ => trivial

/-- Dropping a framed fiber keeps the view. -/
theorem Framed.dropped {p : Fiber σ α} (h : Framed view P p) (w : σ) :
    view (p.dropped w) = view w := by
  cases h with
  | block hr _ => exact hr w
  | _ => rfl

/-- **A framed fiber bound to framed continuations is framed.** The continuation only needs to
be framed on the values the fiber can end with. -/
theorem Framed.bind {p : Fiber σ α} {f : α → Fiber σ β} (hp : Framed view P p)
    (hf : ∀ a, P a → Framed view Q (f a)) : Framed view Q (Fiber.bind p f) := by
  induction hp with
  | done ha => exact hf _ ha
  | read _ ih => exact .read ih
  | update hu _ ih => exact .update hu ih
  | block hr _ ih => exact .block hr ih

theorem Keeps.world : Keeps view (world : Fiber σ σ) := .read fun _ => .done trivial

theorem Keeps.hang [Inhabited α] : Keeps view (hang : Fiber σ α) :=
  .block (fun _ => rfl) (.done trivial)

/-- **A run of a framed fiber keeps the view**, when moving time keeps it, and ends with a value
that satisfies the condition. -/
theorem Framed.ends [VirtualClock σ] (hclock : ∀ w t, view (VirtualClock.setNow w t) = view w)
    {p : Fiber σ α} (h : Framed view P p) {w w' : σ} {a : α} (he : Ends w p w' a) :
    view w' = view w ∧ P a := by
  induction he with
  | done w a => exact ⟨rfl, framed_done_iff.mp h⟩
  | read _ ih =>
    cases h with
    | read hk => exact ih (hk _)
  | @update w₀ _ f _ _ _ ih =>
    cases h with
    | update hf hn =>
      obtain ⟨hv, ha⟩ := ih hn
      exact ⟨hv.trans (hf w₀), ha⟩
  | pass _ _ ih => exact ih (h.of_block)
  | @wake w₀ _ _ _ _ t _ _ _ _ ih =>
    obtain ⟨hv, ha⟩ := ih h
    exact ⟨hv.trans (hclock w₀ t), ha⟩

/-! ### Side by side -/

/-- How two fibers run side by side end, when both are framed: the value of the one that ended
satisfies its condition, and what is left of the other is still framed. -/
def FinishPost (view : σ → ν) (P : α → Prop) (Q : β → Prop) : Finish σ α β → Prop
  | .left a rest => P a ∧ Framed view Q rest
  | .right rest b => Framed view P rest ∧ Q b

/-- A fiber run beside a blocked one keeps what both keep. -/
theorem Framed.besideBlocked {wt : Wait σ} {n : Fiber σ α}
    {resume : Fiber σ β → Fiber σ (Finish σ α β)} {R : Finish σ α β → Prop}
    (hwt : ∀ w, view (wt.release w) = view w) (hdone : ∀ b, Q b → R (.right (Fiber.block wt n) b))
    (hresume : ∀ q, Framed view Q q → Framed view R (resume q)) {q : Fiber σ β}
    (hq : Framed view Q q) : Framed view R (Fiber.besideBlocked wt n resume q) := by
  induction hq with
  | done hb => exact .done (hdone _ hb)
  | read _ ih => exact .read ih
  | update hu _ ih => exact .update hu ih
  | block hr hm ih =>
    -- the two waits are one, and dropping it gives back what both hold
    refine .block (fun w => ?_) (.read fun w => ?_)
    · simp only [Wait.either]
      rw [hr, hwt]
    · split
      · exact hresume _ (.block hr hm)
      · exact ih

/-- **Two framed fibers run side by side are framed.** -/
theorem Framed.firstDone {p : Fiber σ α} (hp : Framed view P p) :
    ∀ {q : Fiber σ β}, Framed view Q q → Framed view (FinishPost view P Q) (Fiber.firstDone p q) := by
  induction hp with
  | done ha => exact fun hq => .done ⟨ha, hq⟩
  | read _ ih => exact fun hq => .read fun w => ih w hq
  | update hu _ ih => exact fun hq => .update hu (ih hq)
  | block hr hn ih =>
    exact fun hq => Framed.besideBlocked hr (fun _ hb => ⟨.block hr hn, hb⟩) (fun _ hq' => ih hq') hq

theorem Framed.race {p : Fiber σ α} {q : Fiber σ β} (hp : Framed view P p)
    (hq : Framed view Q q) : Framed view (Sum.elim P Q) (Fiber.race p q) := by
  refine (hp.firstDone hq).bind ?_
  rintro (⟨a, rest⟩ | ⟨rest, b⟩) ⟨h₁, h₂⟩
  · exact .update h₂.dropped (.done h₁)
  · exact .update h₁.dropped (.done h₂)

theorem Keeps.bothOrFail {ε : Type} {p : Fiber σ (Except ε α)} {q : Fiber σ (Except ε β)}
    (hp : Keeps view p) (hq : Keeps view q) : Keeps view (ChainWatch.bothOrFail p q) := by
  refine (hp.firstDone hq).bind ?_
  -- the one left over is dropped on a failure and waited for on a value
  rintro (⟨a | a, rest⟩ | ⟨rest, b | b⟩) ⟨h₁, h₂⟩
  · exact .update h₂.dropped (.done trivial)
  · exact h₂.bind fun r _ => by cases r <;> exact .done trivial
  · exact .update h₁.dropped (.done trivial)
  · exact h₁.bind fun r _ => by cases r <;> exact .done trivial

/-- **A loop whose body keeps the view and an invariant of its state is framed**, with the
condition its body's final values satisfy. A loop that runs out of rounds hangs on a value it
never reaches, which the condition has to allow all the same. -/
theorem Framed.loop [Inhabited α] {body : β → Fiber σ (β ⊕ α)} (I : β → Prop) (hdef : P default)
    (hbody : ∀ b, I b → Framed view (Sum.elim I P) (body b)) :
    ∀ (fuel : Nat) {b : β}, I b → Framed view P (Fiber.loop fuel body b) := by
  intro fuel
  induction fuel with
  | zero => exact fun _ => .block (fun _ => rfl) (.done hdef)
  | succ n ih =>
    intro b hb
    refine (hbody b hb).bind fun r hr => ?_
    cases r with
    | inl b' => exact ih hr
    | inr a => exact .done hr

/-- **A loop whose body keeps the view and an invariant of its state keeps the view.** -/
theorem Keeps.loop [Inhabited α] {body : β → Fiber σ (β ⊕ α)} (I : β → Prop)
    (hbody : ∀ b, I b → Framed view (Sum.elim I fun _ => True) (body b)) :
    ∀ (fuel : Nat) {b : β}, I b → Keeps view (Fiber.loop fuel body b) :=
  Framed.loop I trivial hbody

/-! ### Time -/

section Time

variable [VirtualClock σ]

theorem Keeps.waitUntilTick (n : Nat) : Keeps view (Fiber.waitUntilTick n : Fiber σ Unit) := by
  refine .read fun w => ?_
  split
  · exact .done trivial
  · exact .block (fun _ => rfl) (.done trivial)

theorem Keeps.now : Keeps view (Fiber.now : Fiber σ Nat) := .read fun _ => .done trivial

theorem Keeps.sleep (ms : Nat) : Keeps view (Fiber.sleep ms : Fiber σ Unit) := by
  unfold Fiber.sleep
  split
  · exact .done trivial
  · exact Keeps.now.bind fun t _ => Keeps.waitUntilTick (2 * (t + ms))

end Time

/-! ### A window of jobs -/

theorem Keeps.droppedAll {ps : List (Fiber σ α)} (h : ∀ p ∈ ps, Keeps view p) (w : σ) :
    view (Fiber.droppedAll ps w) = view w := by
  induction ps generalizing w with
  | nil => rfl
  | cons p ps ih =>
    calc view (Fiber.droppedAll ps (p.dropped w))
        = view (p.dropped w) := ih (fun q hq => h q (List.mem_cons_of_mem p hq)) _
      _ = view w := (h p List.mem_cons_self).dropped w

theorem Keeps.waitOfAll {ps : List (Fiber σ α)} (h : ∀ p ∈ ps, Keeps view p) (w : σ) :
    view ((Fiber.waitOfAll ps).release w) = view w := by
  induction ps generalizing w with
  | nil => rfl
  | cons p ps ih =>
    have hps := ih fun q hq => h q (List.mem_cons_of_mem p hq)
    cases p with
    | block wt n =>
      have hwt := (h _ List.mem_cons_self).dropped w
      simp only [Fiber.waitOfAll, Wait.either]
      rw [hps, ← hwt]
      rfl
    | done a => exact hps w
    | read k => exact hps w
    | update f n => exact hps w

/-- Running a framed fiber up to its next block stays in the frame, and what is left of it is
framed as the fiber was. -/
theorem Framed.advance {p : Fiber σ α} (h : Framed view P p) :
    Framed view (Framed view P) (advance p) := by
  induction h with
  | done ha => exact .done (.done ha)
  | read _ ih => exact .read ih
  | update hu _ ih => exact .update hu ih
  | block hr hn => exact .done (.block hr hn)

theorem Framed.resume {p : Fiber σ α} (h : Framed view P p) :
    Framed view (Framed view P) (resume p) := by
  cases h with
  | block hr hn =>
    refine .read fun w => ?_
    split
    · exact hn.advance
    · exact .done (.block hr hn)
  | done ha => exact Framed.advance (.done ha)
  | read hk => exact Framed.advance (.read hk)
  | update hu hn => exact Framed.advance (.update hu hn)

end Fiber

namespace Window

open ChainWatch.Fiber

variable {σ ε α ν : Type} {view : σ → ν}

/-- Every job of the window, let in or not, keeps `view`. -/
def JobsKeep (view : σ → ν) (st : Window σ ε α) : Prop :=
  (∀ j ∈ st.waiting, Keeps view j.2) ∧ ∀ j ∈ st.running, Keeps view j.2

/-- What a round of a window ends with when every job keeps `view`: a window whose jobs keep it,
or the end of the run. -/
abbrev RoundPost (view : σ → ν) : Window σ ε α ⊕ Except ε (List α) → Prop :=
  Sum.elim (JobsKeep view) fun _ => True

theorem JobsKeep.fibers {st : Window σ ε α} (h : st.JobsKeep view) :
    ∀ p ∈ st.fibers, Keeps view p := by
  intro p hp
  obtain ⟨j, hj, rfl⟩ := List.mem_map.mp hp
  exact h.2 j hj

theorem keeps_take {st : Window σ ε α} (h : st.JobsKeep view) (r : Except ε α) :
    Framed view (RoundPost view) (st.take r) := by
  cases r with
  | error e => exact .update (Keeps.droppedAll h.fibers) (.done trivial)
  | ok a => exact .done ⟨h.1, h.2⟩

theorem keeps_afterRun {st : Window σ ε α} (h : st.JobsKeep view) (i : Nat) (rest : List Nat)
    {p : Fiber σ (Except ε α)} (hp : Keeps view p) :
    Framed view (RoundPost view) (st.afterRun i rest p) := by
  unfold afterRun
  split
  · -- the job ended and leaves the window
    have h' : JobsKeep view
        { st with running := st.running.filter (·.1 != i), due := rest, polled := 0 } :=
      ⟨h.1, fun j hj => h.2 j (List.mem_filter.mp hj).1⟩
    dsimp only
    split
    · exact keeps_take h' _
    · exact .done ⟨h'.1, h'.2⟩
  · -- the job blocked and stays in the window as it now is
    have h' : JobsKeep view
        { st with running := st.running.map (fun jq => if jq.1 = i then (jq.1, p) else jq) } := by
      refine ⟨h.1, fun j hj => ?_⟩
      obtain ⟨⟨k, q⟩, hq, rfl⟩ := List.mem_map.mp hj
      by_cases hk : k = i
      · simpa [hk] using hp
      · simpa [hk] using h.2 _ hq
    dsimp only
    split
    · exact .block (Keeps.droppedAll h'.fibers) (.done ⟨h'.1, h'.2⟩)
    · exact .done ⟨h'.1, h'.2⟩

theorem keeps_afterRoom {st : Window σ ε α} (h : st.JobsKeep view) :
    Framed view (RoundPost view) (round.afterRoom st) := by
  unfold round.afterRoom
  split
  · -- the held value whose turn it is is taken
    refine keeps_take ?_ _
    exact ⟨h.1, h.2⟩
  · split
    · -- the first due job runs, if it is still in the window
      split
      · rename_i hfind
        have hp : Keeps view _ := h.2 _ (List.mem_of_find?_eq_some hfind)
        exact (Framed.resume hp).bind fun _ hp' => keeps_afterRun h _ _ hp'
      · exact .done ⟨h.1, h.2⟩
    · split
      · exact .done trivial
      · exact .block (Keeps.waitOfAll h.fibers) (.read fun _ => .done ⟨h.1, h.2⟩)

theorem keeps_round (width : Nat) {st : Window σ ε α} (h : st.JobsKeep view) :
    Framed view (RoundPost view) (round width st) := by
  unfold round
  split
  · rename_i j js hw
    split
    · -- the next waiting job is let in
      refine .done ⟨fun k hk => h.1 k (by simp [hw, hk]), fun k hk => ?_⟩
      rcases List.mem_append.mp hk with hk | hk
      · exact h.2 k hk
      · rw [List.mem_singleton.mp hk]
        exact h.1 j (by simp [hw])
    · exact keeps_afterRoom h
  · exact keeps_afterRoom h

end Window

/-- **A window of jobs that keep the view keeps it.** -/
theorem Fiber.Keeps.window {σ ε α ν : Type} {view : σ → ν} [Inhabited ε] (width : Nat)
    {jobs : List (Fiber σ (Except ε α))} (h : ∀ p ∈ jobs, Fiber.Keeps view p) :
    Fiber.Keeps view (Fiber.window width jobs) := by
  refine Fiber.Keeps.loop (Window.JobsKeep view) (fun _ hst => Window.keeps_round width hst) _ ⟨?_, ?_⟩
  · intro j hj
    obtain ⟨⟨p, i⟩, hp, rfl⟩ := List.mem_map.mp hj
    exact h p (List.fst_mem_of_mem_zipIdx hp)
  · simp

end ChainWatch
