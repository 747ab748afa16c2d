import ChainWatch.Proofs.Fiber.Pool
import ChainWatch.Proofs.Scenario.Laws

/-!
# The published snapshot

Calls of a manager's operations (`Manager.Call`) run side by side in a pool, in any order, with
time moving on between their turns. Whatever the order, the published snapshot is at every point
that of the last publishing call that ended with a snapshot (`Manager.published`): a build of
every entity that may publish, and nothing else, changes it, and only in the turn that ends it
with that snapshot; a call that reads it answers what was published at that point
(`Manager.latest_state_is_last_published`).

This needs of the world only that the published snapshot is read back once published and that
nothing but publishing touches it: the clients, the fetcher, the identities, the records of the
tracker and time all keep it (`Manager.Sealed`).

The proof follows each call through its turns (`Manager.Left`): a call that does not publish is
framed, so its turns keep the published snapshot (`Fiber.Framed.goOn`); a publishing build is a
framed build followed by the publication, so each of its turns keeps the snapshot, except the
turn that ends it, which publishes what it built (`Manager.goOn_publishing`).
-/

namespace ChainWatch

open ChainWatch.Fiber

namespace Manager

variable {σ D N : Type}

/-- A call of one of the manager's operations, with its arguments. -/
inductive Call where
  | headSlot
  | latestProposedBlock (fromSlot : Nat) (tok : CancelToken)
  | latestBeaconBlock (tok : CancelToken)
  | latestFinalizedBeaconBlock (tok : CancelToken)
  | stateAt (target : BuildTarget) (tok : CancelToken)
  | buildAndPublish (target : BuildTarget) (filter : EntityFilter) (tok : CancelToken)
  /-- Reads the published snapshot. -/
  | latestState

/-- What a call of the manager answers. -/
inductive Answer (D N : Type) where
  | slot (n : Nat)
  | block (b : BeaconBlock)
  | snapshot (s : Snapshot D N)
  | latest (s : Option (Snapshot D N))

/-- Whether a call publishes the snapshot it builds: a build of every entity that may publish. -/
def Call.publishes : Call → Bool
  | .buildAndPublish _ .all _ => true
  | _ => false

/-- The published snapshot once a call ends with `a`, where `s` was published before: the
snapshot a publishing call ends with, else `s`. -/
def Call.publishedAfter (call : Call) (s : Option (Snapshot D N)) :
    Except StateError (Answer D N) → Option (Snapshot D N)
  | .ok (.snapshot x) => if call.publishes then some x else s
  | _ => s

theorem Call.publishedAfter_of_publishes_false {call : Call} (h : call.publishes = false)
    (s : Option (Snapshot D N)) (a : Except StateError (Answer D N)) :
    call.publishedAfter s a = s := by
  unfold Call.publishedAfter
  split
  · simp [h]
  · rfl

/-- The published snapshot once call `i` of `calls` ended with `a`, if one ended. -/
def afterEnd (calls : List Call) (s : Option (Snapshot D N)) :
    Option (Nat × Except StateError (Answer D N)) → Option (Snapshot D N)
  | some (i, a) =>
    match calls[i]? with
    | some call => call.publishedAfter s a
    | none => s
  | none => s

/-- The published snapshot after the calls of `calls` that ended, in order, from `start`: the
snapshot of the last publishing call that ended with one. -/
def published (calls : List Call) (start : Option (Snapshot D N))
    (ends : List (Option (Nat × Except StateError (Answer D N)))) : Option (Snapshot D N) :=
  ends.foldl (afterEnd calls) start

@[simp] theorem published_nil (calls : List Call) (start : Option (Snapshot D N)) :
    published calls start [] = start := rfl

@[simp] theorem published_append_singleton (calls : List Call) (start : Option (Snapshot D N))
    (ends : List (Option (Nat × Except StateError (Answer D N))))
    (e : Option (Nat × Except StateError (Answer D N))) :
    published calls start (ends ++ [e]) = afterEnd calls (published calls start ends) e := by
  simp [published]

/-- An answer that is not a reading of the published snapshot. -/
def NotLatest (a : Except StateError (Answer D N)) : Prop := ∀ s, a ≠ .ok (.latest s)

theorem bind_ne_done {α β : Type} {q : Fiber σ α} (hq : ∀ a, q ≠ .done a) (f : α → Fiber σ β)
    (b : β) : Fiber.bind q f ≠ .done b := by
  cases q with
  | done a => exact absurd rfl (hq a)
  | _ => nofun

/-- A call that answers something else than the published snapshot keeps what its operation
keeps. -/
theorem framed_answer {α : Type} {view : σ → Option (Snapshot D N)} {p : Fiber σ (Except StateError α)}
    (hp : Fiber.Keeps view p) (f : α → Answer D N) (hf : ∀ a s, f a ≠ .latest s) :
    Framed view NotLatest (Fiber.bind p fun r => .done (r.map f)) :=
  hp.bind fun r _ => .done fun s h => by
    cases r with
    | error e => cases h
    | ok a => exact hf a s (by injection h)

section Calls

variable [TrackerWorld σ] (m : Manager σ D N)

/-- Runs a call of the manager. -/
def call : Call → Fiber σ (Except StateError (Answer D N))
  | .headSlot => Fiber.bind m.headSlot fun r => .done (r.map .slot)
  | .latestProposedBlock fromSlot tok =>
    Fiber.bind (m.latestProposedBlock fromSlot tok) fun r => .done (r.map .block)
  | .latestBeaconBlock tok => Fiber.bind (m.latestBeaconBlock tok) fun r => .done (r.map .block)
  | .latestFinalizedBeaconBlock tok =>
    Fiber.bind (m.latestFinalizedBeaconBlock tok) fun r => .done (r.map .block)
  | .stateAt target tok => Fiber.bind (m.stateAt target tok) fun r => .done (r.map .snapshot)
  | .buildAndPublish target filter tok =>
    Fiber.bind (m.buildAndPublish target filter tok) fun r => .done (r.map .snapshot)
  | .latestState => .read fun w => .done (.ok (.latest (m.latest w)))

/-- What is left of a publishing build once `q` is left of the build itself. -/
def publishing (q : Fiber σ (Except StateError (Snapshot D N))) :
    Fiber σ (Except StateError (Answer D N)) :=
  Fiber.bind (Fiber.bind q (m.publishIfComplete .all)) fun r => .done (r.map .snapshot)

/-- What is left of a call after some of its turns. -/
inductive Left : Call → Fiber σ (Except StateError (Answer D N)) → Prop
  /-- A reading of the published snapshot that has not run. -/
  | reading : Left .latestState (m.call .latestState)
  /-- A publishing build, with the part of the build that is left. -/
  | publishing {target : BuildTarget} {tok : CancelToken} {q : Fiber σ (Except StateError (Snapshot D N))} :
      Fiber.Keeps m.latest q → Left (.buildAndPublish target .all tok) (m.publishing q)
  /-- A call that does not publish keeps the published snapshot and does not answer it. -/
  | framed {c : Call} {p : Fiber σ (Except StateError (Answer D N))} :
      c.publishes = false → Framed m.latest NotLatest p → Left c p
  | ended {c : Call} {a : Except StateError (Answer D N)} : Left c (.done a)

/-- What a turn of a call does to the published snapshot, from world `w` to `r.1`, leaving
`r.2` of the call. -/
structure Turned (c : Call) (w : σ) (r : σ × Fiber σ (Except StateError (Answer D N))) : Prop where
  left : m.Left c r.2
  /-- A turn that ends the call leaves what its end publishes. -/
  ending : ∀ a, r.2 = .done a → m.latest r.1 = c.publishedAfter (m.latest w) a
  /-- A turn that does not end the call keeps the published snapshot. -/
  going : (∀ a, r.2 ≠ .done a) → m.latest r.1 = m.latest w
  /-- A reading answers what is published. -/
  reads : ∀ s, r.2 = .done (.ok (.latest s)) → s = m.latest w

variable {m}

/-- Each call starts as what is left of it. -/
theorem left_call (hs : m.Sealed) : ∀ c, m.Left c (m.call c)
  | .headSlot => .framed rfl (framed_answer hs.keeps.headSlot _ fun _ _ => nofun)
  | .latestProposedBlock fromSlot tok =>
    .framed rfl (framed_answer (hs.keeps.latestProposedBlock fromSlot tok) _ fun _ _ => nofun)
  | .latestBeaconBlock tok =>
    .framed rfl (framed_answer (hs.keeps.latestBeaconBlock tok) _ fun _ _ => nofun)
  | .latestFinalizedBeaconBlock tok =>
    .framed rfl (framed_answer (hs.keeps.latestFinalizedBeaconBlock tok) _ fun _ _ => nofun)
  | .stateAt target tok => .framed rfl (framed_answer (hs.keeps.stateAt target tok) _ fun _ _ => nofun)
  | .buildAndPublish target .all tok => .publishing ((hs.keeps.build target .all).cancellable tok)
  | .buildAndPublish target (.single a) tok => by
    -- a build of one entity is never published
    have hpub : ∀ r, Fiber.Keeps m.latest (m.publishIfComplete (.single a) r) := by
      rintro (e | s) <;> simp [publishIfComplete]
    exact .framed rfl (framed_answer
      (((hs.keeps.build target _).cancellable tok).bind fun r _ => hpub r) _ fun _ _ => nofun)
  | .latestState => .reading

/-- **A turn of a publishing build.** It keeps the published snapshot and leaves a framed build,
or ends with the snapshot it built, published, or ends with a failure and keeps the published
snapshot. -/
theorem goOn_publishing (hs : m.Sealed) {q : Fiber σ (Except StateError (Snapshot D N))}
    (hq : Fiber.Keeps m.latest q) {w : σ} {r : σ × Fiber σ (Except StateError (Answer D N))}
    (hgo : (m.publishing q).goOn w = some r) :
    (∃ q', Fiber.Keeps m.latest q' ∧ (∀ a, q' ≠ .done a) ∧ r.2 = m.publishing q' ∧
      m.latest r.1 = m.latest w) ∨
    (∃ s, r.2 = .done (.ok (.snapshot s)) ∧ m.latest r.1 = some s) ∨
    (∃ e, r.2 = .done (.error e) ∧ m.latest r.1 = m.latest w) := by
  by_cases hdone : ∃ a, q = .done a
  · -- the build has ended already: what is left publishes at once, or has failed
    obtain ⟨a | s, rfl⟩ := hdone
    · cases hgo
    · have hr : r = (m.publish s w, .done (.ok (.snapshot s))) := (Option.some.inj hgo).symm
      subst hr
      exact .inr (.inl ⟨s, rfl, hs.latest_publish s w⟩)
  · have hne : ∀ a, q ≠ .done a := fun a h => hdone ⟨a, h⟩
    rw [publishing, goOn_bind (bind_ne_done hne _), goOn_bind hne] at hgo
    cases hq' : q.goOn w with
    | none => simp [hq'] at hgo
    | some r₁ =>
      obtain ⟨hv, hk⟩ := hq.goOn hq'
      simp only [hq', Option.map_some, Option.some.injEq] at hgo
      subst hgo
      obtain ⟨w₁, q₁⟩ := r₁
      -- the turn ended the build, or left it blocked
      cases q₁ with
      | done a =>
        rcases a with e | s
        · exact .inr (.inr ⟨e, rfl, hv⟩)
        · exact .inr (.inl ⟨s, rfl, hs.latest_publish s w₁⟩)
      | read k => exact .inl ⟨.read k, hk, nofun, rfl, hv⟩
      | update f n => exact .inl ⟨.update f n, hk, nofun, rfl, hv⟩
      | block wt n => exact .inl ⟨.block wt n, hk, nofun, rfl, hv⟩

/-- **A turn of a call** does what `Turned` says. -/
theorem Left.goOn (hs : m.Sealed) {c : Call} {p : Fiber σ (Except StateError (Answer D N))}
    (hp : m.Left c p) {w : σ} {r : σ × Fiber σ (Except StateError (Answer D N))}
    (hgo : p.goOn w = some r) : m.Turned c w r := by
  cases hp with
  | reading =>
    cases hgo
    refine ⟨.ended, fun a ha => ?_, fun hnd => absurd rfl (hnd _), fun s hs' => ?_⟩
    · cases ha
      rfl
    · cases hs'
      rfl
  | @publishing target tok q hq =>
    rcases goOn_publishing hs hq hgo with ⟨q', hq', hnd, h2, hv⟩ | ⟨s, h2, hv⟩ | ⟨e, h2, hv⟩
    · -- the build goes on: nothing ended, nothing was published
      have hne : ∀ a, r.2 ≠ .done a := by
        rw [h2]
        exact bind_ne_done (bind_ne_done hnd _) _
      exact ⟨h2 ▸ .publishing hq', fun a ha => absurd ha (hne a), fun _ => hv,
        fun s hs' => absurd hs' (hne _)⟩
    · -- the build ended with its snapshot, now published
      refine ⟨h2 ▸ .ended, fun a ha => ?_, fun hnd => absurd h2 (hnd _), fun s' hs' => ?_⟩
      · rw [h2] at ha
        cases ha
        simp [hv, Call.publishedAfter, Call.publishes]
      · rw [h2] at hs'
        cases hs'
    · -- the build failed, and nothing was published
      refine ⟨h2 ▸ .ended, fun a ha => ?_, fun hnd => absurd h2 (hnd _), fun s' hs' => ?_⟩
      · rw [h2] at ha
        cases ha
        exact hv
      · rw [h2] at hs'
        cases hs'
  | framed hc hf =>
    obtain ⟨hv, hf'⟩ := hf.goOn hgo
    refine ⟨.framed hc hf', fun a _ => ?_, fun _ => hv, fun s hs' => ?_⟩
    · rw [hv, Call.publishedAfter_of_publishes_false hc]
    · rw [hs'] at hf'
      exact absurd rfl ((framed_done_iff.mp hf') s)
  | ended => cases hgo

/-! ### Runs of calls -/

variable (m) in
/-- What holds at every point of a run of `calls`, from a world where `start` was published,
once the calls in `ends` ended. -/
structure RunInvariant (calls : List Call) (start : Option (Snapshot D N))
    (ends : List (Option (Nat × Except StateError (Answer D N))))
    (c : Pool σ (Except StateError (Answer D N))) : Prop where
  length : c.tasks.length = calls.length
  left : ∀ (i : Nat) (call : Call) (p : Fiber σ (Except StateError (Answer D N))),
    calls[i]? = some call → c.tasks[i]? = some p → m.Left call p
  latest : m.latest c.world = published calls start ends
  reads : ∀ k i s, ends[k]? = some (some (i, .ok (.latest s))) →
    s = published calls start (ends.take k)

theorem runInvariant_start (hs : m.Sealed) (calls : List Call) (w : σ) :
    m.RunInvariant calls (m.latest w) [] ⟨w, calls.map m.call⟩ := by
  refine ⟨by simp, fun i call p hc hp => ?_, rfl, fun k i s h => by simp at h⟩
  simp only [List.getElem?_map, hc, Option.map_some, Option.some.injEq] at hp
  exact hp ▸ left_call hs call

/-- The readings stay right when a step ends nothing or ends a reading of what was published. -/
theorem reads_append {calls : List Call} {start : Option (Snapshot D N)}
    {ends : List (Option (Nat × Except StateError (Answer D N)))}
    {e : Option (Nat × Except StateError (Answer D N))}
    (h : ∀ k i s, ends[k]? = some (some (i, .ok (.latest s))) →
      s = published calls start (ends.take k))
    (he : ∀ i s, e = some (i, .ok (.latest s)) → s = published calls start ends) :
    ∀ k i s, (ends ++ [e])[k]? = some (some (i, .ok (.latest s))) →
      s = published calls start ((ends ++ [e]).take k) := by
  intro k i s hk
  rcases Nat.lt_or_ge k ends.length with hlt | hge
  · rw [List.getElem?_append_left hlt] at hk
    rw [List.take_append_of_le_length (Nat.le_of_lt hlt)]
    exact h k i s hk
  · -- past the earlier ends only the new one is left
    rw [List.getElem?_append_right hge] at hk
    have hk0 : k - ends.length = 0 := by
      rcases hn : k - ends.length with _ | n
      · rfl
      · simp [hn] at hk
    rw [hk0] at hk
    obtain rfl : k = ends.length := by omega
    rw [List.take_append_of_le_length (Nat.le_refl _), List.take_length]
    exact he i s (by simpa using hk)

theorem RunInvariant.step (hs : m.Sealed) {calls : List Call} {start : Option (Snapshot D N)}
    {ends : List (Option (Nat × Except StateError (Answer D N)))}
    {c c' : Pool σ (Except StateError (Answer D N))}
    {e : Option (Nat × Except StateError (Answer D N))}
    (hinv : m.RunInvariant calls start ends c) (hstep : Pool.Step c e c') :
    m.RunInvariant calls start (ends ++ [e]) c' := by
  cases hstep with
  | tick _ =>
    refine ⟨hinv.length, hinv.left, ?_, reads_append hinv.reads nofun⟩
    rw [hs.latest_setNow, hinv.latest, published_append_singleton]
    rfl
  | @turn i p r hp hgo =>
    -- the task that took the turn is a call of the list
    obtain ⟨call, hcall⟩ : ∃ call, calls[i]? = some call := by
      have hi : i < calls.length := hinv.length ▸ (List.getElem?_eq_some_iff.mp hp).1
      exact ⟨calls[i], List.getElem?_eq_getElem hi⟩
    have ht := (hinv.left i call p hcall hp).goOn hs hgo
    refine ⟨by simp [hinv.length], fun j call' p' hc' hp' => ?_, ?_, ?_⟩
    · rw [List.getElem?_set] at hp'
      split at hp'
      · rename_i hj
        subst hj
        rw [hcall] at hc'
        cases hc'
        simp only [Option.ite_none_right_eq_some, Option.some.injEq] at hp'
        exact hp'.2 ▸ ht.left
      · exact hinv.left j call' p' hc' hp'
    · rw [published_append_singleton, ← hinv.latest]
      cases h2 : r.2 with
      | done a =>
        simp only [Pool.ended, afterEnd, hcall]
        exact ht.ending a h2
      | read k => exact ht.going (by rw [h2]; nofun)
      | update f n => exact ht.going (by rw [h2]; nofun)
      | block wt n => exact ht.going (by rw [h2]; nofun)
    · refine reads_append hinv.reads fun i' s he => ?_
      rw [← hinv.latest]
      cases h2 : r.2 with
      | done a =>
        simp only [Pool.ended, h2, Option.some.injEq, Prod.mk.injEq] at he
        obtain ⟨rfl, rfl⟩ := he
        exact ht.reads s h2
      | read k => simp [Pool.ended, h2] at he
      | update f n => simp [Pool.ended, h2] at he
      | block wt n => simp [Pool.ended, h2] at he

variable (m)

/-- **The published snapshot is that of the last publishing build.** Calls of the manager's
operations run side by side from a world where `start` is published, in any order and with time
moving on between their turns. At every point, the published snapshot is that of the last call
that ended with a snapshot among the builds of every entity that may publish, and `start` if none
has; and each reading of the published snapshot that ended answered what was published when it
ran. So a build that does not publish, one that failed or was cancelled, and every other call
leave the published snapshot as it was. -/
theorem latest_state_is_last_published (hs : m.Sealed) {calls : List Call} {w : σ}
    {ends : List (Option (Nat × Except StateError (Answer D N)))}
    {c : Pool σ (Except StateError (Answer D N))}
    (hrun : Pool.Run ⟨w, calls.map m.call⟩ ends c) :
    m.latest c.world = published calls (m.latest w) ends ∧
    ∀ k i s, ends[k]? = some (some (i, .ok (.latest s))) →
      s = published calls (m.latest w) (ends.take k) := by
  have hinv : m.RunInvariant calls (m.latest w) ends c := by
    induction hrun with
    | refl => exact runInvariant_start hs calls w
    | tail _ hstep ih => exact ih.step hs hstep
  exact ⟨hinv.latest, hinv.reads⟩

end Calls

/-- In the world with one block, a reading, a publishing build at slot zero and a second
reading take their turns in that order: the build publishes its snapshot, which the second
reading answers. -/
theorem latest_state_is_last_published_oneBlock :
    let m := World.managerOf (World.oneBlock.tracker {} 0) World.emptyManager
    let calls : List Call := [.latestState, .buildAndPublish (.slot 0) .all .never, .latestState]
    let S : Snapshot AccountDetails ExecutionHeader :=
      { id := 0, targetSlot := 0, block := ⟨0, 0, some 1000, none⟩, chain := World.secondSlots,
        executionBlock := 1000, network := ⟨1000, 0⟩, details := [] }
    ∃ ends c, Pool.Run ⟨World.oneBlock, calls.map m.call⟩ ends c ∧ m.latest c.world = some S ∧
      ends[2]? = some (some (2, .ok (.latest (some S)))) := by
  intro m calls S
  -- each call takes one turn; a turn's result is left unevaluated until the end
  have hrun := (((Pool.Run.refl (c := ⟨World.oneBlock, calls.map m.call⟩)).turn (i := 0) rfl
    (by with_unfolding_all rfl)).turn (i := 1) rfl (by with_unfolding_all rfl)).turn (i := 2) rfl
    (by with_unfolding_all rfl)
  have h := m.latest_state_is_last_published (World.managerOf_sealed _ _ _ _) hrun
  refine ⟨_, _, hrun, h.1.trans (by with_unfolding_all rfl), ?_⟩
  -- the second reading answers what was published when it ran
  have hread := h.2 2 2 _ rfl
  exact (congrArg (fun s => some (some (2, Except.ok (Answer.latest s)))) hread).trans
    (by with_unfolding_all rfl)

end Manager

end ChainWatch
