import ChainWatch.Health.Gates
import ChainWatch.Proofs.Scenario.Laws

/-!
# How the waits and the gates end

A wait on a service with no time limit ends in one of four ways: an instance is synced, no
instance can be used, the probe of the instance waited on failed, or the wait was cancelled
(`Tracker.WaitEnd`). It never ends with `false`, which only a time limit gives, so the gates that
wait for a service without a limit never report it not ready (`Tracker.unlimited_gates_end`).

The wait for a contract is where a `notReady` comes through: once the execution service is
synced, each check for code goes through the ready instance of the service, and that check
reports the service not ready, with no time waited, when the service is back to waiting on an
instance. That is the only `notReady` the contract wait can end with, and it does end with it
when the execution node falls behind between the sync and the first check
(`contract_wait_reports_not_ready`).

The statements are about the values a fiber can end with, read off its shape (`Fiber.Gives`),
so they hold of every run, alone or beside other tasks, whatever the probes answer.
-/

namespace ChainWatch

open ChainWatch.Fiber

/-- A result whose failure, if it is one, satisfies `P`. -/
def FailsWith {ε α : Type} (P : ε → Prop) : Except ε α → Prop
  | .ok _ => True
  | .error e => P e

/-- A failure that ends a wait with no time limit: no instance can be used, the probe of the
instance waited on failed, or the wait was cancelled. -/
def HealthError.endsWait : HealthError → Bool
  | .noAvailableClient .. | .transport .. | .cancelled => true
  | .notReady .. | .contractNotDeployed _ => false

/-- A failure of a check for a contract: one that ends a wait, or the execution service found not
ready, with no time waited. -/
def HealthError.FailsCheck (e : HealthError) : Prop :=
  e.endsWait = true ∨ e = .notReady .execution 0

/-- How a wait with no time limit can end: an instance is synced, or a failure that ends a wait. -/
def Tracker.WaitEnd : Except HealthError Bool → Prop
  | .ok b => b = true
  | .error e => e.endsWait = true

namespace Fiber

variable {σ α : Type}

/-- Every value `p` can end with satisfies `post`, whatever runs beside it. -/
abbrev Gives (post : α → Prop) (p : Fiber σ α) : Prop := Framed (fun _ : σ => ()) post p

/-- Every fiber ends with some value, if it ends. -/
theorem gives_true (p : Fiber σ α) : Gives (fun _ => True) p := by
  induction p with
  | done a => exact .done trivial
  | read k ih => exact .read ih
  | update f n ih => exact .update (fun _ => rfl) ih
  | block wt n ih => exact .block (fun _ => rfl) ih

theorem Gives.ends [VirtualClock σ] {P : α → Prop} {p : Fiber σ α} (h : Gives P p) {w w' : σ}
    {a : α} (he : Ends w p w' a) : P a :=
  (Framed.ends (fun _ _ => rfl) h he).2

theorem Gives.releasing {rel : σ → σ} {P : α → Prop} {p : Fiber σ α} (h : Gives P p) :
    Gives P (Fiber.releasing rel p) := by
  induction h with
  | done ha => exact .update (fun _ => rfl) (.done ha)
  | read _ ih => exact .read ih
  | update hu _ ih => exact .update hu ih
  | block _ _ ih => exact .block (fun _ => rfl) ih

theorem Gives.holding {get : σ → FairLock} {set : σ → FairLock → σ} {ticket : Nat}
    {P : α → Prop} {body : Fiber σ α} (h : Gives P body) : Gives P (holding get set ticket body) :=
  .update (fun _ => rfl) (.block (fun _ => rfl) h.releasing)

end Fiber

/-! ### Evaluations and polls -/

section Waits

variable {σ : Type} [TrackerWorld σ] (t : Tracker σ)

/-- An evaluation fails only when no instance can be used. -/
theorem Tracker.gives_scan (kind : ServiceKind) : ∀ (roles : List Role) (waiting : Option Role),
    Gives (FailsWith fun e => ∃ p f, e = .noAvailableClient kind p f) (t.scan kind roles waiting)
  | [], some _ => .done trivial
  | [], none => .read fun _ => .done ⟨_, _, rfl⟩
  | r :: rs, waiting => by
    refine (gives_true _).bind fun res _ => (gives_true _).bind fun _ _ => ?_
    split
    · split
      · exact (gives_true _).bind fun _ _ => .done trivial
      · exact .done trivial
    · exact Tracker.gives_scan kind rs _
    · exact Tracker.gives_scan kind rs _

/-- A round of the polls either goes on or ends the wait as a wait with no limit ends. -/
theorem Tracker.gives_pollRound (kind : ServiceKind) (s : Selection × Nat) :
    Gives (Sum.elim (fun _ => True) Tracker.WaitEnd) (t.pollRound kind s) := by
  obtain ⟨sel, lastRefresh⟩ := s
  cases sel with
  | ready _ => exact .done rfl
  | waitOn role =>
    refine (gives_true _).bind fun now _ => ?_
    split
    · -- a failed refresh is an evaluation that found no instance to use
      refine (t.gives_scan kind _ _).bind fun r hr => ?_
      rcases r with e | sel
      · obtain ⟨p, f, rfl⟩ := hr
        exact .done rfl
      · exact (gives_true _).bind fun _ _ => .done trivial
    · refine (gives_true _).bind fun r _ => ?_
      rcases r with e | (p | _)
      · exact (gives_true _).bind fun _ _ => .done rfl
      · exact (gives_true _).bind fun _ _ => (gives_true _).bind fun _ _ => .done trivial
      · exact (gives_true _).bind fun _ _ => .done rfl

theorem Tracker.gives_pollUntilSynced (kind : ServiceKind) :
    Gives Tracker.WaitEnd (t.pollUntilSynced kind) := by
  refine (gives_true _).bind fun start _ => (t.gives_scan kind _ _).bind fun r hr => ?_
  rcases r with e | sel
  · obtain ⟨p, f, rfl⟩ := hr
    exact .done rfl
  · -- the value after the last round is a cancellation, which ends a wait too
    exact Framed.loop (fun _ => True) (by exact rfl) (fun s _ => t.gives_pollRound kind s) _ trivial

/-- A wait with no time limit ends as such a wait ends: never with `false`. -/
theorem Tracker.gives_waitUntilSynced_zero (kind : ServiceKind) (tok : CancelToken) :
    Gives Tracker.WaitEnd (t.waitUntilSynced kind 0 tok) := by
  unfold Tracker.waitUntilSynced
  rw [if_pos rfl]
  refine (gives_true _).bind fun _ _ =>
    ((gives_true _).race (Gives.holding (t.gives_pollUntilSynced kind))).bind ?_
  rintro (u | r) hr
  · exact .done rfl
  · exact .done hr

theorem Tracker.gives_waitSynced (kind : ServiceKind) (tok : CancelToken) :
    Gives (FailsWith fun e => e.endsWait = true) (t.waitSynced kind tok) := by
  refine (t.gives_waitUntilSynced_zero kind tok).bind fun r hr => ?_
  rcases r with e | (_ | _)
  · exact .done hr
  · cases hr
  · exact .done trivial

/-! ### Checks for a contract -/

/-- The check for a ready instance fails when no instance can be used, or when the service is
only waiting on one. -/
theorem Tracker.gives_readyRole (kind : ServiceKind) :
    Gives (FailsWith fun e => (∃ p f, e = .noAvailableClient kind p f) ∨ e = .notReady kind 0)
      (t.readyRole kind) := by
  refine (t.gives_scan kind _ _).bind fun r hr => ?_
  rcases r with e | (role | role)
  · exact .done (.inl hr)
  · exact .done trivial
  · exact .done (.inr rfl)

theorem Tracker.gives_hasCode (address : Address) (tok : CancelToken) :
    Gives (FailsWith HealthError.FailsCheck) (t.hasCode address tok) := by
  unfold Tracker.hasCode
  refine ((gives_true _).race (Q := FailsWith HealthError.FailsCheck) ?_).bind ?_
  · refine (t.gives_readyRole .execution).bind fun r hr => ?_
    rcases r with e | role
    · rcases hr with ⟨p, f, rfl⟩ | rfl
      · exact .done (.inl rfl)
      · exact .done (.inr rfl)
    · dsimp only
      split
      · exact .done (.inl rfl)
      · refine (gives_true _).bind fun r _ => ?_
        rcases r with e | code
        · exact .done (.inl rfl)
        · exact .done trivial
  · rintro (u | r) hr
    · exact .done (.inl rfl)
    · exact .done hr

theorem Tracker.gives_waitContract (address : Address) (tok : CancelToken) :
    Gives (FailsWith HealthError.FailsCheck) (t.waitContract address tok) := by
  refine (t.gives_waitSynced .execution tok).bind fun r hr => ?_
  rcases r with e | _
  · exact .done (.inl hr)
  · -- every round checks for code, and sleeps between checks unless cancelled
    refine Framed.loop (fun _ => True) (by exact .inl rfl) (fun _ _ => ?_) _ trivial
    refine (t.gives_hasCode address tok).bind fun r hr => ?_
    rcases r with e | (_ | _)
    · exact .done hr
    · refine ((gives_true _).race (gives_true _)).bind ?_
      rintro (_ | _) _
      · exact .done (.inl rfl)
      · exact .done trivial
    · exact .done trivial

theorem FailsWith.unit {P : HealthError → Prop} {r : Except HealthError Unit} (h : FailsWith P r) :
    r = .ok () ∨ ∃ e, r = .error e ∧ P e := by
  rcases r with e | ⟨⟩
  · exact .inr ⟨e, rfl, h⟩
  · exact .inl rfl

/-- **The gates with no time limit never report a service not ready.** Whatever the probes
answer and whatever the configuration, a run of the gate that waits for a service to be synced
ends with the service synced, or with no instance to use, a failed probe or a cancellation. The
gate that waits for a contract can also end with the execution service found not ready, with no
time waited, by its check for code, and with no other `notReady`. -/
theorem Tracker.unlimited_gates_end :
    (∀ (kind : ServiceKind) (tok : CancelToken) {w w' : σ} {r : Except HealthError Unit},
      Ends w (t.waitSynced kind tok) w' r → r = .ok () ∨ ∃ e, r = .error e ∧ e.endsWait = true) ∧
    (∀ (address : Address) (tok : CancelToken) {w w' : σ} {r : Except HealthError Unit},
      Ends w (t.waitContract address tok) w' r →
        r = .ok () ∨ ∃ e, r = .error e ∧ (e.endsWait = true ∨ e = .notReady .execution 0)) :=
  ⟨fun kind tok _ _ _ h => ((t.gives_waitSynced kind tok).ends h).unit,
    fun address tok _ _ _ h => ((t.gives_waitContract address tok).ends h).unit⟩

end Waits

/-! ### In the world of a scenario -/

/-- The wait for the synced execution node of the scenario of one block ends with the node
synced, as a gate with no limit may. -/
theorem unlimited_gate_on_synced_node :
    let t := World.oneBlock.tracker {} 0
    let w' := (run 1000 World.oneBlock (t.waitSynced .execution .never)).1
    Ends World.oneBlock (t.waitSynced .execution .never) w' (.ok ()) ∧
      ((.ok () : Except HealthError Unit) = .ok () ∨
        ∃ e, (.ok () : Except HealthError Unit) = .error e ∧ e.endsWait = true) := by
  intro t w'
  have h : Ends World.oneBlock (t.waitSynced .execution .never) w' (.ok ()) :=
    ends_of_run_snd 1000 (by with_unfolding_all rfl)
  exact ⟨h, (Tracker.unlimited_gates_end t).1 .execution .never h⟩

/-- A world whose execution node is synced at its first probe, with a recent newest block at
wall-clock zero, and syncing at 40 % from its second probe on. -/
def World.fallsBehind : World :=
  World.start ⟨{ syncScript := [.ok none, .ok (some ⟨0, 40, 100⟩)] }, none⟩ ⟨{}, none⟩

/-- **The contract wait reports the service not ready.** On a node that is synced when the wait
begins and behind at its first check for code, the wait for a contract ends at once with the
execution service not ready. -/
theorem contract_wait_reports_not_ready :
    let t := World.fallsBehind.tracker {} 0
    let gate := t.waitContract (Address.repeatByte 0x11) .never
    Ends World.fallsBehind gate (run 1000 World.fallsBehind gate).1 (.error (.notReady .execution 0)) :=
  ends_of_run_snd 1000 (by with_unfolding_all rfl)

end ChainWatch
