import Mathlib.Data.List.Chain
import ChainWatch.Proofs.Health.SyncWait

/-!
# A wait does not busy-spin

A wait sleeps a poll interval after each poll of an instance still syncing, and evaluates the
service afresh only once the refresh interval has passed since its last evaluation. When that
interval is positive, the round after a refresh starts at the millisecond the refresh ended, so it
polls: two evaluations never follow one another without a sleep between them, except the first
evaluation and a refresh right after it, when the first evaluation itself took the whole interval
(`SleepsBeforeEvaluating`); and any two evaluations of a wait begin at least the refresh interval
apart. Both hold of every round (`Tracker.Round.paced`, `Tracker.Round.spaced`), so of every run
of the rounds by induction, and so of every run of a wait (`Tracker.refreshes_are_paced`).

A refresh interval of zero, which the configuration accepts, makes every round a refresh and no
round sleep: a wait on a node that answers syncing three times and then synced evaluates four
times over, all at the millisecond it was called (`refreshing_without_interval_spins`).
-/

namespace ChainWatch

open ChainWatch.Fiber

/-- The milliseconds at which moves evaluate the service. -/
def evaluations (moves : List (PollMove × Nat)) : List Nat :=
  moves.filterMap fun
    | (.evaluate, m) => some m
    | _ => none

theorem evaluations_append (ms ms' : List (PollMove × Nat)) :
    evaluations (ms ++ ms') = evaluations ms ++ evaluations ms' :=
  List.filterMap_append

/-- Every evaluation among the moves but the first move comes right after a sleep. -/
def SleepsBeforeEvaluating (moves : List (PollMove × Nat)) : Prop :=
  moves.IsChain fun a b => b.1 = .evaluate → a.1 = .sleep

namespace Tracker

variable {σ : Type} [TrackerWorld σ] {t : Tracker σ} {kind : ServiceKind} {d : Option Nat}

/-! ### Sleeps between evaluations -/

/-- A round sleeps before nothing it evaluates. -/
theorem Round.sleepsBefore {s : Selection × Nat} {w w' : σ}
    {o : Option ((Selection × Nat) ⊕ Except HealthError Bool)} {ms : List (PollMove × Nat)}
    (h : t.Round kind d s w w' o ms) : SleepsBeforeEvaluating ms := by
  cases h with
  | syncing | sleepCut => exact .cons_cons (by simp) (.singleton _)
  | ready => exact .nil
  | refresh | synced | fails | pollCut => exact .singleton _

/-- A round that goes on either evaluated, and the next round starts at the millisecond that
evaluation ended, or ended with a sleep. -/
theorem Round.goes_on {s s' : Selection × Nat} {w w' : σ}
    {o : Option ((Selection × Nat) ⊕ Except HealthError Bool)} {ms : List (PollMove × Nat)}
    (h : t.Round kind d s w w' o ms) (ho : o = some (.inl s')) :
    ms ≠ [] ∧ (s'.2 = VirtualClock.now w' / 2 ∨ ∃ m, ms.getLast? = some (.sleep, m)) := by
  cases h with
  | @refresh _ _ _ _ y _ _ =>
    refine ⟨List.cons_ne_nil _ _, .inl ?_⟩
    rcases y with _ | e | sel <;>
      simp only [Option.map, refreshed, Option.some.injEq, Sum.inl.injEq, reduceCtorEq] at ho
    subst ho
    rfl
  | syncing => exact ⟨List.cons_ne_nil _ _, .inr ⟨_, rfl⟩⟩
  | ready | synced | fails | sleepCut | pollCut => simp at ho

/-- A round that starts at the millisecond of the last evaluation does not evaluate, when the
refresh interval is positive: it polls first, or ends at once. -/
theorem Round.polls_first (hR : t.config.statusRefreshInterval ≠ 0) {s : Selection × Nat} {w w' : σ}
    {o : Option ((Selection × Nat) ⊕ Except HealthError Bool)} {ms : List (PollMove × Nat)}
    (h : t.Round kind d s w w' o ms) (hs : s.2 = VirtualClock.now w / 2) :
    ms = [] ∨ ∃ m, ms.head? = some (.poll, m) := by
  cases h with
  | ready => exact .inl rfl
  | refresh hR' =>
    simp only at hs
    omega
  | synced | fails | syncing | sleepCut | pollCut => exact .inr ⟨_, rfl⟩

/-- The rounds of a wait sleep before every evaluation but their first, which, when the rounds
start at the millisecond of the last evaluation, is not there: they poll first, or end at once. -/
theorem Polls.paced (hR : t.config.statusRefreshInterval ≠ 0) {n : Nat} {s : Selection × Nat} {w w' : σ}
    {y : Option (Except HealthError Bool)} {ms : List (PollMove × Nat)} (h : t.Polls kind d n s w w' y ms) :
    SleepsBeforeEvaluating ms ∧ (s.2 = VirtualClock.now w / 2 → ms = [] ∨ ∃ m, ms.head? = some (.poll, m)) := by
  induction h with
  | next hr _ ih =>
    obtain ⟨hne, hgo⟩ := hr.goes_on rfl
    refine ⟨List.isChain_append.mpr ⟨hr.sleepsBefore, ih.1, fun x hx z hz hev => ?_⟩, fun hs => ?_⟩
    · rcases hgo with hfresh | ⟨m, hlast⟩
      · -- after a refresh the next round polls first
        rcases ih.2 hfresh with rfl | ⟨m, hm⟩
        · cases hz
        · rw [hm, Option.mem_def, Option.some.injEq] at hz
          subst hz
          cases hev
      · rw [hlast, Option.mem_def, Option.some.injEq] at hx
        subst hx
        rfl
    · rcases hr.polls_first hR hs with h0 | ⟨m, hm⟩
      · exact absurd h0 hne
      · exact .inr ⟨m, by rw [List.head?_append_of_ne_nil _ hne, hm]⟩
  | stop hr => exact ⟨hr.sleepsBefore, hr.polls_first hR⟩
  | outOfRounds => exact ⟨.nil, fun _ => .inl rfl⟩

theorem Waiting.paced (hR : t.config.statusRefreshInterval ≠ 0) {w w' : σ}
    {y : Option (Except HealthError Bool)} {ms : List (PollMove × Nat)} (h : t.Waiting kind d w w' y ms) :
    SleepsBeforeEvaluating ms.tail := by
  cases h with
  | stop => exact .nil
  | rounds _ hp => exact (hp.paced hR).1

/-! ### Evaluations a refresh interval apart -/

/-- A round evaluates only once the refresh interval has passed since the last evaluation. -/
theorem Round.spaced (hR : t.config.statusRefreshInterval ≠ 0) {s : Selection × Nat} {w w' : σ}
    {o : Option ((Selection × Nat) ⊕ Except HealthError Bool)} {ms : List (PollMove × Nat)}
    (h : t.Round kind d s w w' o ms) :
    (s.2 :: evaluations ms).IsChain (fun a b => a + t.config.statusRefreshInterval ≤ b) := by
  cases h with
  | refresh hR' => exact .cons_cons (by omega) (.singleton _)
  | ready | synced | fails | syncing | sleepCut | pollCut => exact .singleton _

section Spaced

variable [LawfulClock σ] (ht : t.Keeps VirtualClock.now)

include ht

/-- A round that goes on leaves the millisecond of the last evaluation at or after every one it
saw: a refresh ends no earlier than it began. -/
theorem Round.le_next (hR : t.config.statusRefreshInterval ≠ 0) {s s' : Selection × Nat} {w w' : σ}
    {o : Option ((Selection × Nat) ⊕ Except HealthError Bool)} {ms : List (PollMove × Nat)}
    (h : t.Round kind d s w w' o ms) (ho : o = some (.inl s')) :
    ∀ m ∈ s.2 :: evaluations ms, m ≤ s'.2 := by
  intro m hm
  cases h with
  | @refresh _ last w _ y hR' he =>
    have hle := (Within.now_le (ht.evaluate kind) he).1
    rcases y with _ | e | sel <;>
      simp only [Option.map, refreshed, Option.some.injEq, Sum.inl.injEq, reduceCtorEq] at ho
    subst ho
    simp only [evaluations, List.filterMap_cons, List.filterMap_nil, List.mem_cons, List.not_mem_nil,
      or_false] at hm
    rcases hm with rfl | rfl <;> omega
  | syncing =>
    simp only [Option.some.injEq, Sum.inl.injEq] at ho
    subst ho
    simp [evaluations] at hm
    omega
  | ready | synced | fails | sleepCut | pollCut => simp at ho

/-- The evaluations of the rounds of a wait begin a refresh interval apart, the first one a
refresh interval after the last evaluation before them. -/
theorem Polls.spaced (hR : t.config.statusRefreshInterval ≠ 0) {n : Nat} {s : Selection × Nat} {w w' : σ}
    {y : Option (Except HealthError Bool)} {ms : List (PollMove × Nat)} (h : t.Polls kind d n s w w' y ms) :
    (s.2 :: evaluations ms).IsChain (fun a b => a + t.config.statusRefreshInterval ≤ b) := by
  induction h with
  | next hr _ ih =>
    rw [evaluations_append, ← List.cons_append]
    refine List.isChain_append.mpr ⟨hr.spaced hR, ih.tail, fun x hx z hz => ?_⟩
    have hxs := hr.le_next ht hR rfl x (List.mem_of_getLast? hx)
    have hzs := (List.isChain_cons.mp ih).1 z hz
    omega
  | stop hr => exact hr.spaced hR
  | outOfRounds => exact .singleton _

theorem Waiting.spaced (hR : t.config.statusRefreshInterval ≠ 0) {w w' : σ}
    {y : Option (Except HealthError Bool)} {ms : List (PollMove × Nat)} (h : t.Waiting kind d w w' y ms) :
    (evaluations ms).IsChain (fun a b => a + t.config.statusRefreshInterval ≤ b) := by
  cases h with
  | stop => exact .singleton _
  | rounds _ hp => exact hp.spaced ht hR

end Spaced

theorem SyncWait.paced (hR : t.config.statusRefreshInterval ≠ 0) {T : Nat} {w w' : σ}
    {r : Except HealthError Bool} {moves : List (PollMove × Nat)} (h : t.SyncWait kind T w w' r moves) :
    SleepsBeforeEvaluating moves.tail := by
  cases h with
  | ended hw | timedOut hw => exact hw.paced hR

theorem SyncWait.spaced [LawfulClock σ] (ht : t.Keeps VirtualClock.now)
    (hR : t.config.statusRefreshInterval ≠ 0) {T : Nat} {w w' : σ} {r : Except HealthError Bool}
    {moves : List (PollMove × Nat)} (h : t.SyncWait kind T w w' r moves) :
    (evaluations moves).IsChain (fun a b => a + t.config.statusRefreshInterval ≤ b) := by
  cases h with
  | ended hw | timedOut hw => exact hw.spaced ht hR

/-- **A wait does not busy-spin**, when its refresh interval is positive. Called alone over a
tracker whose requests leave the clock alone, with its lock free and a token that never fires, a
wait's every evaluation but its first and a refresh right after it comes right after a sleep of
the poll interval, and its evaluations begin at least the refresh interval apart, so time moves on
between any two of them; whatever the probes answer and however long they take. -/
theorem refreshes_are_paced [LawfulClock σ] (hl : TrackerWorld.LockLaws σ) (ht : t.Keeps VirtualClock.now)
    (hR : t.config.statusRefreshInterval ≠ 0) (kind : ServiceKind) (T : Nat) {w w' : σ}
    {r : Except HealthError Bool} (hfree : (TrackerWorld.waitLock w kind).tickets = [])
    (h : Ends w (t.waitUntilSynced kind T .never) w' r) :
    ∃ moves, t.SyncWait kind T w w' r moves ∧ SleepsBeforeEvaluating moves.tail ∧
      (evaluations moves).IsChain (fun a b => a + t.config.statusRefreshInterval ≤ b) := by
  obtain ⟨moves, hs⟩ := (ends_waitUntilSynced_iff hl ht hfree).mp h
  exact ⟨moves, hs, hs.paced hR, hs.spaced ht hR⟩

/-! ### Without a refresh interval -/

/-- Without a refresh interval, every round of a wait on an instance evaluates afresh. -/
theorem Round.refreshes (hR : t.config.statusRefreshInterval = 0) {role : Role} {last : Nat} {w w' : σ}
    {o : Option ((Selection × Nat) ⊕ Except HealthError Bool)} {ms : List (PollMove × Nat)}
    (h : t.Round kind d (.waitOn role, last) w w' o ms) :
    ms = [(.evaluate, VirtualClock.now w / 2)] ∧
      ∃ z, Within d w (t.evaluate kind) w' z ∧ o = z.map (refreshed w') := by
  cases h with
  | refresh _ he => exact ⟨rfl, _, he, rfl⟩
  | synced hlt | fails hlt | syncing hlt | sleepCut hlt | pollCut hlt => omega

/-- Without a refresh interval, the rounds of a wait on an instance start with an evaluation, and
go on from the instance it selects. -/
theorem Polls.refreshes (hR : t.config.statusRefreshInterval = 0) {n : Nat} {role : Role} {last : Nat}
    {w w' : σ} {y : Option (Except HealthError Bool)} {ms : List (PollMove × Nat)}
    (h : t.Polls kind d (n + 1) (.waitOn role, last) w w' y ms) :
    ∃ w₁ z ms', Within d w (t.evaluate kind) w₁ z ∧ ms = (.evaluate, VirtualClock.now w / 2) :: ms' ∧
      ∀ sel, z = some (.ok sel) → t.Polls kind d n (sel, VirtualClock.now w₁ / 2) w₁ w' y ms' := by
  cases h with
  | next hr hp =>
    obtain ⟨rfl, z, he, hz⟩ := hr.refreshes hR
    refine ⟨_, z, _, he, rfl, fun sel hsel => ?_⟩
    subst hsel
    simp only [Option.map, refreshed, Option.some.injEq, Sum.inl.injEq] at hz
    subst hz
    exact hp
  | stop hr =>
    obtain ⟨rfl, z, he, hz⟩ := hr.refreshes hR
    refine ⟨_, z, [], he, rfl, fun sel hsel => ?_⟩
    subst hsel
    rcases y with _ | r <;> simp [refreshed] at hz

/-- A wait whose first evaluation selects an instance goes round from it. -/
theorem Waiting.goes_round {w w₁ w' : σ} {sel : Selection} {y : Option (Except HealthError Bool)}
    {ms : List (PollMove × Nat)} (h : t.Waiting kind d w w' y ms)
    (he : Within d w (t.evaluate kind) w₁ (some (.ok sel))) :
    ∃ ms', ms = (.evaluate, VirtualClock.now w / 2) :: ms' ∧
      t.Polls kind d Fiber.rounds (sel, VirtualClock.now w / 2) w₁ w' y ms' := by
  cases h with
  | stop he' =>
    rename_i z
    have := (he.unique he').2
    rcases z with _ | e <;> cases this
  | rounds he' hp =>
    obtain ⟨rfl, hsel⟩ := he.unique he'
    cases hsel
    exact ⟨_, rfl, hp⟩

end Tracker

/-- A world whose execution node answers syncing three times and synced after that, with its
beacon node at its defaults, at time zero with every lock free. -/
def World.syncsAfterThree : World :=
  World.start ⟨{ syncScript := [.ok (some ⟨0, 40, 100⟩), .ok (some ⟨0, 40, 100⟩),
    .ok (some ⟨0, 40, 100⟩), .ok none] }, none⟩ ⟨{}, none⟩

/-- A wait of one second, with the default intervals, on the node that stays syncing, is paced. -/
theorem refreshes_paced_on_syncing_node :
    let t := World.syncingExecution.tracker {} 0
    let w' := (run 1000 World.syncingExecution (t.waitUntilSynced .execution 1000 .never)).1
    t.config.statusRefreshInterval ≠ 0 ∧
      ∃ moves, t.SyncWait .execution 1000 World.syncingExecution w' (.ok false) moves ∧
        SleepsBeforeEvaluating moves.tail ∧
        (evaluations moves).IsChain (fun a b => a + t.config.statusRefreshInterval ≤ b) := by
  intro t w'
  have h : Ends World.syncingExecution (t.waitUntilSynced .execution 1000 .never) w' (.ok false) :=
    ends_of_run_snd 1000 (by with_unfolding_all rfl)
  exact ⟨by decide, Tracker.refreshes_are_paced World.lockLaws (World.tracker_keeps_now _ _ _)
    (by decide) .execution 1000 rfl h⟩

/-- **Without a refresh interval a wait spins.** With the refresh interval set to zero, a wait on
the node that answers syncing three times evaluates the service again at once in every round: its
second and third evaluations follow one another with no sleep between them. -/
theorem refreshing_without_interval_spins :
    let t := World.syncsAfterThree.tracker { statusRefreshInterval := 0 } 0
    let w' := (run 1000 World.syncsAfterThree (t.waitUntilSynced .execution 0 .never)).1
    Ends World.syncsAfterThree (t.waitUntilSynced .execution 0 .never) w' (.ok true) ∧
      ∀ moves, t.SyncWait .execution 0 World.syncsAfterThree w' (.ok true) moves →
        ¬ SleepsBeforeEvaluating moves.tail := by
  intro t w'
  refine ⟨ends_of_run_snd 1000 (by with_unfolding_all rfl), fun moves h => ?_⟩
  -- the first two evaluations both wait on the primary, which is still syncing
  have he₀ := ends_of_run_snd 100 (w := Tracker.enteredWait .execution World.syncsAfterThree)
    (p := t.evaluate .execution) (a := .ok (.waitOn .primary)) (by with_unfolding_all rfl)
  have he₁ := ends_of_run_snd 100 (w := (run 100 (Tracker.enteredWait .execution World.syncsAfterThree)
    (t.evaluate .execution)).1) (p := t.evaluate .execution) (a := .ok (.waitOn .primary))
    (by with_unfolding_all rfl)
  obtain ⟨n, hn⟩ : ∃ n, Fiber.rounds = n + 1 + 1 := ⟨_, rfl⟩
  generalize w' = v at h
  cases h with
  | ended hw =>
    obtain ⟨ms, rfl, hp⟩ := hw.goes_round (within_none_iff.mpr ⟨_, he₀, rfl⟩)
    rw [hn] at hp
    obtain ⟨w₁, z, ms', he, rfl, hnext⟩ := hp.refreshes rfl
    obtain ⟨rfl, rfl⟩ := (within_none_iff.mpr ⟨_, he₁, rfl⟩).unique he
    obtain ⟨_, _, ms'', -, rfl, -⟩ := (hnext _ rfl).refreshes rfl
    intro hpaced
    exact nomatch (List.isChain_cons_cons.mp hpaced).1 rfl

end ChainWatch
