import ChainWatch.Proofs.Scenario.Laws

/-!
# How the tracker selects an instance

An evaluation of a service probes its instances in order of precedence, the primary first, and
records the health each probe shows; it stops at the first synced instance. `Tracker.Probes`
states that run without the code: which instances are probed, from which world to which, and
what health each showed. The choice is then the policy's (`Selection.choose`): the first synced
instance is ready, else the first syncing one is waited on, else no instance can be used and the
failure names what the primary and the fallback, if there is one, showed (`Tracker.policy`).

`Tracker.evaluate_follows_policy` says that the evaluation ends exactly as the policy says, with
the classification of an instance by one probe (`ExecutionApi.ends_pollSynced_iff`,
`BeaconApi.ends_pollSynced_iff`). The failure texts are read back from the recorded healths, so
this needs of the world that a held record reads back the health last recorded, and that nothing
else touches the records (`Tracker.Records`).
-/

namespace ChainWatch

open ChainWatch.Fiber

/-- Whether the instance was catching up at its last probe. -/
def Health.isSyncing : Health → Bool
  | .syncing _ => true
  | _ => false

/-- The choice of the policy from the healths the probes showed, in order: the first synced
instance is ready, else the first syncing one is waited on. -/
def Selection.choose (shown : List (Role × Health)) : Option Selection :=
  match shown.find? (·.2.isSynced) with
  | some x => some (.ready x.1)
  | none => (shown.find? (·.2.isSyncing)).map fun x => .waitOn x.1

/-- What the policy gives from the healths shown, in order: its choice, or, when there is none,
the failure of the service with what the primary and the fallback, if there is one, showed. -/
def Tracker.policy (kind : ServiceKind) (hasFallback : Bool) (shown : List (Role × Health)) :
    Except HealthError Selection :=
  match Selection.choose shown with
  | some sel => .ok sel
  | none => .error (.noAvailableClient kind (((shown.lookup .primary).bind Health.error?).getD "")
      (if hasFallback then (shown.lookup .fallback).bind Health.error? else none))

/-! ### One probe -/

section Probe

variable {σ : Type} [VirtualClock σ]

theorem SyncPoll.health_error (e : ClientError) : SyncPoll.health (.error e) = .unavailable e.message := rfl

/-- The runs of one probe of an execution node, from `w` to `w'`, with what it found. A failed
read of the sync range or of the newest header is the failure; a range not yet complete makes
the node syncing with its progress; otherwise the age of the newest block decides, recent
meaning less than the threshold in whole seconds. -/
inductive ExecutionApi.Polls (api : ExecutionApi σ) (thresholdMs wallClock : Nat) :
    σ → σ → Except ClientError SyncPoll → Prop
  | rangeFailed {w w' : σ} {e : ClientError} :
      Ends w api.syncProgress w' (.error e) → ExecutionApi.Polls api thresholdMs wallClock w w' (.error e)
  | behind {w w' : σ} {p : SyncProgress} :
      Ends w api.syncProgress w' (.ok (some p)) → p.isComplete = false →
      ExecutionApi.Polls api thresholdMs wallClock w w' (.ok (.syncing (some p.fraction)))
  | headerFailed {w w₁ w' : σ} {x : Option SyncProgress} {e : ClientError} :
      Ends w api.syncProgress w₁ (.ok x) → (∀ p, x = some p → p.isComplete = true) →
      Ends w₁ (api.headerByNumber none) w' (.error e) →
      ExecutionApi.Polls api thresholdMs wallClock w w' (.error e)
  | newest {w w₁ w' : σ} {x : Option SyncProgress} {h : ExecutionHeader} :
      Ends w api.syncProgress w₁ (.ok x) → (∀ p, x = some p → p.isComplete = true) →
      Ends w₁ (api.headerByNumber none) w' (.ok h) →
      ExecutionApi.Polls api thresholdMs wallClock w w'
        (.ok (if isRecent h.timestamp wallClock thresholdMs then .synced else .syncing none))

/-- The runs of one probe of a beacon node: unavailable when its sync status cannot be read,
syncing with its progress while it syncs, synced otherwise. -/
inductive BeaconApi.Polls (api : BeaconApi σ) : σ → σ → Except ClientError SyncPoll → Prop
  | statusFailed {w w' : σ} {e : ClientError} :
      Ends w api.syncStatus w' (.error e) → BeaconApi.Polls api w w' (.error e)
  | status {w w' : σ} {s : BeaconSync} :
      Ends w api.syncStatus w' (.ok s) →
      BeaconApi.Polls api w w' (.ok (if s.syncing then .syncing (some s.progress) else .synced))

/-- Once the sync range is missing or complete, a probe of an execution node runs as the read of
its newest header. -/
theorem ExecutionApi.ends_pollSynced_of_complete {api : ExecutionApi σ} {thresholdMs wallClock : Nat}
    {w w₁ w' : σ} {r : Except ClientError SyncPoll} {x : Option SyncProgress}
    (hs : Ends w api.syncProgress w₁ (.ok x)) (hx : ∀ p, x = some p → p.isComplete = true) :
    Ends w₁ (ExecutionApi.pollSynced.newest api thresholdMs wallClock) w' r ↔
      Ends w (api.pollSynced thresholdMs wallClock) w' r := by
  refine ⟨fun hn => ends_bind_iff.mpr ⟨w₁, .ok x, hs, ?_⟩, fun h => ?_⟩
  · cases x with
    | none => exact hn
    | some p =>
      simp only [hx p rfl, Bool.not_true, Bool.false_eq_true, if_false]
      exact hn
  · -- the sync range read in the run is the one given
    obtain ⟨w₂, x', hs', hend⟩ := ends_bind_iff.mp h
    obtain ⟨rfl, rfl⟩ := hs.unique hs'
    cases x with
    | none => exact hend
    | some p =>
      simp only [hx p rfl, Bool.not_true, Bool.false_eq_true, if_false] at hend
      exact hend

/-- A run of the read of the newest header, once the sync range was read missing or complete,
ends a probe as the header says. -/
theorem ExecutionApi.Polls.of_newest {api : ExecutionApi σ} {thresholdMs wallClock : Nat}
    {w w₁ w' : σ} {r : Except ClientError SyncPoll} {x : Option SyncProgress}
    (hs : Ends w api.syncProgress w₁ (.ok x)) (hx : ∀ p, x = some p → p.isComplete = true)
    (h : Ends w₁ (ExecutionApi.pollSynced.newest api thresholdMs wallClock) w' r) :
    api.Polls thresholdMs wallClock w w' r := by
  obtain ⟨w₂, e | hd, hh, hend⟩ := ends_bind_iff.mp h
  · obtain ⟨rfl, rfl⟩ := ends_done_iff.mp hend
    exact .headerFailed hs hx hh
  · obtain ⟨rfl, rfl⟩ := ends_done_iff.mp hend
    exact .newest hs hx hh

/-- **How one probe classifies an execution node.** -/
theorem ExecutionApi.ends_pollSynced_iff {api : ExecutionApi σ} {thresholdMs wallClock : Nat}
    {w w' : σ} {r : Except ClientError SyncPoll} :
    Ends w (api.pollSynced thresholdMs wallClock) w' r ↔ api.Polls thresholdMs wallClock w w' r := by
  constructor
  · intro h
    obtain ⟨w₁, e | _ | p, hs, hend⟩ := ends_bind_iff.mp h
    · obtain ⟨rfl, rfl⟩ := ends_done_iff.mp hend
      exact .rangeFailed hs
    · exact .of_newest hs nofun ((ExecutionApi.ends_pollSynced_of_complete hs nofun).mpr h)
    · -- a range read decides at once while it is not complete
      cases hc : p.isComplete with
      | false =>
        simp only [hc, Bool.not_false, if_true, ends_done_iff] at hend
        obtain ⟨rfl, rfl⟩ := hend
        exact .behind hs hc
      | true =>
        have hx : ∀ q, some p = some q → q.isComplete = true := fun _ hq => Option.some.inj hq ▸ hc
        exact .of_newest hs hx ((ExecutionApi.ends_pollSynced_of_complete hs hx).mpr h)
  · intro h
    cases h with
    | rangeFailed hs => exact ends_bind_iff.mpr ⟨w', _, hs, .done _ _⟩
    | behind hs hc =>
      refine ends_bind_iff.mpr ⟨w', _, hs, ?_⟩
      simp only [hc, Bool.not_false, if_true]
      exact .done _ _
    | headerFailed hs hx hh =>
      exact (ExecutionApi.ends_pollSynced_of_complete hs hx).mp
        (ends_bind_iff.mpr ⟨w', _, hh, .done _ _⟩)
    | newest hs hx hh =>
      exact (ExecutionApi.ends_pollSynced_of_complete hs hx).mp
        (ends_bind_iff.mpr ⟨w', _, hh, .done _ _⟩)

/-- **How one probe classifies a beacon node.** -/
theorem BeaconApi.ends_pollSynced_iff {api : BeaconApi σ} {w w' : σ}
    {r : Except ClientError SyncPoll} :
    Ends w api.pollSynced w' r ↔ api.Polls w w' r := by
  constructor
  · intro h
    obtain ⟨w₁, e | s, hs, hend⟩ := ends_bind_iff.mp h
    · obtain ⟨rfl, rfl⟩ := ends_done_iff.mp hend
      exact .statusFailed hs
    · obtain ⟨rfl, rfl⟩ := ends_done_iff.mp hend
      exact .status hs
  · intro h
    cases h with
    | statusFailed hs => exact ends_bind_iff.mpr ⟨w', _, hs, .done _ _⟩
    | status hs => exact ends_bind_iff.mpr ⟨w', _, hs, .done _ _⟩

end Probe

/-! ### The choice of the policy -/

section Choice

theorem Selection.choose_of_not_synced {shown : List (Role × Health)}
    (h : ∀ x ∈ shown, x.2.isSynced = false) :
    Selection.choose shown = (shown.find? (·.2.isSyncing)).map fun x => .waitOn x.1 := by
  unfold Selection.choose
  rw [List.find?_eq_none.mpr fun x hx => by simp [h x hx]]

theorem Selection.choose_append_synced {before : List (Role × Health)}
    (h : ∀ x ∈ before, x.2.isSynced = false) (r : Role) :
    Selection.choose (before ++ [(r, .synced)]) = some (.ready r) := by
  unfold Selection.choose
  rw [List.find?_append, List.find?_eq_none.mpr fun x hx => by simp [h x hx]]
  rfl

/-- Healths shown none of which is synced, followed by one more that is not. -/
theorem not_synced_append {before : List (Role × Health)} (hb : ∀ x ∈ before, x.2.isSynced = false)
    (r : Role) {h : Health} (hh : h.isSynced = false) :
    ∀ x ∈ before ++ [(r, h)], x.2.isSynced = false := by
  intro x hx
  rcases List.mem_append.mp hx with hx | hx
  · exact hb x hx
  · rw [List.mem_singleton.mp hx]
    exact hh

/-- A syncing instance is waited on unless an earlier one is. -/
theorem waiting_append_syncing {before : List (Role × Health)} {r : Role} {h : Health}
    (hs : h.isSyncing = true) :
    ((before ++ [(r, h)]).find? (·.2.isSyncing)).map (·.1) =
      ((before.find? (·.2.isSyncing)).map (·.1)).orElse fun _ => some r := by
  rw [List.find?_append]
  cases before.find? (·.2.isSyncing) with
  | some x => rfl
  | none => simp [List.find?, hs]

/-- An instance that is not syncing changes nothing to the instance waited on. -/
theorem waiting_append_not_syncing {before : List (Role × Health)} {r : Role} {h : Health}
    (hs : h.isSyncing = false) :
    ((before ++ [(r, h)]).find? (·.2.isSyncing)).map (·.1) =
      (before.find? (·.2.isSyncing)).map (·.1) := by
  rw [List.find?_append]
  cases before.find? (·.2.isSyncing) with
  | some x => rfl
  | none => simp [List.find?, hs]

/-- Healths shown that agree with a record `f` look every instance up to its record, if shown. -/
theorem lookup_eq_of_agrees {shown : List (Role × Health)} {f : Role → Health}
    (hf : ∀ x ∈ shown, f x.1 = x.2) (r : Role) :
    shown.lookup r = if r ∈ shown.map Prod.fst then some (f r) else none := by
  induction shown with
  | nil => rfl
  | cons x xs ih =>
    obtain ⟨k, h⟩ := x
    have hxs : ∀ y ∈ xs, f y.1 = y.2 := fun y hy => hf y (List.mem_cons_of_mem _ hy)
    by_cases hr : r = k
    · subst hr
      simp [hf (r, h) List.mem_cons_self]
    · simp only [List.map_cons, List.mem_cons, hr, false_or, ← ih hxs]
      simp only [List.lookup_cons, beq_eq_false_iff_ne.mpr hr]

end Choice

/-! ### The instances of a service -/

section Instances

variable {σ : Type}

/-- The instances of a service, in order of precedence: the primary, then the fallback if there
is one. -/
theorem Tracker.roles_eq (t : Tracker σ) (kind : ServiceKind) :
    t.roles kind = if t.hasFallback kind then [.primary, .fallback] else [.primary] := by
  cases kind <;> rfl

theorem Tracker.nodup_roles (t : Tracker σ) (kind : ServiceKind) : (t.roles kind).Nodup := by
  rw [Tracker.roles_eq]
  split <;> simp

theorem Tracker.poll_execution (t : Tracker σ) {r : Role} {api : ExecutionApi σ} (h : t.execution.get? r = some api) :
    t.poll .execution r = api.pollSynced t.config.recentBlockThreshold t.wallClock := by
  unfold Tracker.poll Tracker.probe?
  rw [h]
  rfl

theorem Tracker.poll_beacon (t : Tracker σ) {r : Role} {api : BeaconApi σ} (h : t.beacon.get? r = some api) :
    t.poll .beacon r = api.pollSynced := by
  unfold Tracker.poll Tracker.probe?
  rw [h]
  rfl

end Instances

/-! ### The probes of an evaluation -/

section Scan

variable {σ : Type} [TrackerWorld σ]

/-- The probes of an evaluation of `kind` over `roles`, from `w` to `w'`, with the health each
probed instance showed, in order: the health each probe shows is recorded, and a synced instance
ends the probes, turning to the fallback being logged. -/
inductive Tracker.Probes (t : Tracker σ) (kind : ServiceKind) :
    List Role → σ → List (Role × Health) → σ → Prop
  | nil {w : σ} : Tracker.Probes t kind [] w [] w
  | synced {r : Role} {rs : List Role} {w w₁ w₂ : σ} {res : Except ClientError SyncPoll} :
      Ends w (t.poll kind r) w₁ res → SyncPoll.health res = .synced →
      Ends (TrackerWorld.setHealth w₁ kind r .synced)
        (if r = .fallback then TrackerWorld.warn (Tracker.fallbackWarning kind) else .done ()) w₂ () →
      Tracker.Probes t kind (r :: rs) w [(r, .synced)] w₂
  | next {r : Role} {rs : List Role} {w w₁ w₂ : σ} {res : Except ClientError SyncPoll}
      {shown : List (Role × Health)} :
      Ends w (t.poll kind r) w₁ res → SyncPoll.health res ≠ .synced →
      Tracker.Probes t kind rs (TrackerWorld.setHealth w₁ kind r (SyncPoll.health res)) shown w₂ →
      Tracker.Probes t kind (r :: rs) w ((r, SyncPoll.health res) :: shown) w₂

variable (t : Tracker σ) (kind : ServiceKind)

/-- What the scan gives once the healths `shown` were shown, in order, ending in `w'`: the
choice of the policy, or the failure with the texts recorded in `w'`. -/
def Tracker.scanResult (w' : σ) (shown : List (Role × Health)) : Except HealthError Selection :=
  match Selection.choose shown with
  | some sel => .ok sel
  | none => .error (.noAvailableClient kind ((t.failureIn w' kind .primary).getD "")
      (t.failureIn w' kind .fallback))

/-- The end of a scan at a synced instance: the warning when it is the fallback, then the
selection. -/
theorem ends_fallbackWarning_iff {α : Type} {r : Role} {x w' : σ} {v a : α} :
    Ends x (if r = .fallback then Fiber.bind (TrackerWorld.warn (Tracker.fallbackWarning kind))
        (fun () => .done v) else .done v) w' a ↔
      Ends x (if r = .fallback then TrackerWorld.warn (Tracker.fallbackWarning kind) else .done ())
        w' () ∧ a = v := by
  split
  · simp [ends_bind_iff, TrackerWorld.warn, eq_comm]
  · simp [eq_comm]

/-- Every run of a scan is a run of its probes, and ends as the policy says. `before` are the
healths shown earlier, none synced, and the scan waits on the first syncing one among them. -/
theorem Tracker.Probes.of_ends_scan : ∀ {rs : List Role} {before : List (Role × Health)}
    {w w' : σ} {res : Except HealthError Selection},
    (∀ x ∈ before, x.2.isSynced = false) →
    Ends w (t.scan kind rs ((before.find? (·.2.isSyncing)).map (·.1))) w' res →
    ∃ shown, t.Probes kind rs w shown w' ∧ res = t.scanResult kind w' (before ++ shown) := by
  intro rs
  induction rs with
  | nil =>
    intro before w w' res hb h
    refine ⟨[], ?_⟩
    rw [List.append_nil, Tracker.scanResult, Selection.choose_of_not_synced hb]
    cases hf : before.find? (·.2.isSyncing) with
    | some x =>
      rw [hf] at h
      obtain ⟨rfl, rfl⟩ := ends_done_iff.mp h
      exact ⟨.nil, rfl⟩
    | none =>
      rw [hf] at h
      have h := ends_read_iff.mp h
      obtain ⟨rfl, rfl⟩ := ends_done_iff.mp h
      exact ⟨.nil, rfl⟩
  | cons r rs ih =>
    intro before w w' res hb h
    obtain ⟨w₁, res₀, hpoll, h⟩ := ends_bind_iff.mp h
    -- the health the probe showed is recorded, then it decides how the scan goes on
    have h := ends_update_iff.mp h
    -- an instance that is not synced is recorded, and the scan goes on with the rest
    have hnext : ∀ H, H.isSynced = false → SyncPoll.health res₀ = H →
        Ends (TrackerWorld.setHealth w₁ kind r H)
          (t.scan kind rs (((before ++ [(r, H)]).find? (·.2.isSyncing)).map (·.1))) w' res →
        ∃ shown, t.Probes kind (r :: rs) w shown w' ∧
          res = t.scanResult kind w' (before ++ shown) := by
      intro H hH hh h
      obtain ⟨shown, hp, rfl⟩ := ih (not_synced_append hb r hH) h
      have hne : SyncPoll.health res₀ ≠ .synced := by
        rw [hh]
        rintro rfl
        cases hH
      refine ⟨(r, H) :: shown, hh ▸ .next hpoll hne (hh ▸ hp), ?_⟩
      rw [List.append_assoc, List.singleton_append]
    generalize hh : SyncPoll.health res₀ = health at h
    cases health with
    | synced =>
      -- a synced instance ends the scan
      obtain ⟨hwarn, rfl⟩ := (ends_fallbackWarning_iff kind).mp h
      refine ⟨[(r, .synced)], .synced hpoll hh hwarn, ?_⟩
      rw [Tracker.scanResult, Selection.choose_append_synced hb]
    | syncing p =>
      refine hnext _ rfl hh ?_
      rw [waiting_append_syncing rfl]
      exact h
    | unknown =>
      refine hnext _ rfl hh ?_
      rw [waiting_append_not_syncing rfl]
      exact h
    | unavailable e =>
      refine hnext _ rfl hh ?_
      rw [waiting_append_not_syncing rfl]
      exact h

/-- Every run of the probes is a run of the scan, which ends as the policy says. -/
theorem Tracker.Probes.ends_scan {rs : List Role} {w w' : σ} {shown : List (Role × Health)}
    (hp : t.Probes kind rs w shown w') : ∀ {before : List (Role × Health)},
    (∀ x ∈ before, x.2.isSynced = false) →
    Ends w (t.scan kind rs ((before.find? (·.2.isSyncing)).map (·.1))) w'
      (t.scanResult kind w' (before ++ shown)) := by
  induction hp with
  | nil =>
    intro before hb
    rw [List.append_nil, Tracker.scanResult, Selection.choose_of_not_synced hb]
    cases before.find? (·.2.isSyncing) with
    | some x => exact .done _ _
    | none => exact .read (.done _ _)
  | @synced r rs w w₁ w₂ res hpoll hh hwarn =>
    intro before hb
    rw [Tracker.scanResult, Selection.choose_append_synced hb]
    refine ends_bind_iff.mpr ⟨w₁, res, hpoll, .update ?_⟩
    rw [hh]
    exact (ends_fallbackWarning_iff kind).mpr ⟨hwarn, rfl⟩
  | @next r rs w w₁ w₂ res shown hpoll hne _ ih =>
    intro before hb
    have hH : (SyncPoll.health res).isSynced = false := by
      cases hr : SyncPoll.health res with
      | synced => exact absurd hr hne
      | _ => rfl
    have hrest := ih (not_synced_append hb r hH)
    rw [List.append_assoc, List.singleton_append] at hrest
    refine ends_bind_iff.mpr ⟨w₁, res, hpoll, .update ?_⟩
    -- the scan goes on with the rest, waiting on this instance if it is the first syncing one
    generalize SyncPoll.health res = H at hrest hH
    cases H with
    | synced => cases hH
    | syncing p =>
      rw [waiting_append_syncing rfl] at hrest
      exact hrest
    | unknown =>
      rw [waiting_append_not_syncing rfl] at hrest
      exact hrest
    | unavailable e =>
      rw [waiting_append_not_syncing rfl] at hrest
      exact hrest

/-- **A scan ends exactly as its probes and the policy say.** -/
theorem Tracker.ends_scan_iff {rs : List Role} {w w' : σ} {res : Except HealthError Selection} :
    Ends w (t.scan kind rs none) w' res ↔
      ∃ shown, t.Probes kind rs w shown w' ∧ res = t.scanResult kind w' shown := by
  constructor
  · intro h
    simpa using Tracker.Probes.of_ends_scan t kind (List.forall_mem_nil _) h
  · rintro ⟨shown, hp, rfl⟩
    simpa using hp.ends_scan t kind (List.forall_mem_nil _)

/-! ### The records the probes leave -/

variable {t kind} {held : σ → ServiceKind → Role → Prop}

/-- The probes keep which records are held, and the records of the instances they do not probe. -/
theorem Tracker.Probes.frame (hrec : t.Records held) {rs : List Role} {w w' : σ}
    {shown : List (Role × Health)} (hp : t.Probes kind rs w shown w') :
    held w' = held w ∧ ∀ r ∉ rs, TrackerWorld.health w' kind r = TrackerWorld.health w kind r := by
  induction hp with
  | nil => exact ⟨rfl, fun _ _ => rfl⟩
  | @synced r rs w w₁ w₂ res hpoll _ hwarn =>
    obtain ⟨hh₁, hk₁⟩ := hrec.ends_poll hpoll
    -- after the record, at most a line of the log
    have hlog : TrackerWorld.health w₂ = TrackerWorld.health (TrackerWorld.setHealth w₁ kind r .synced) ∧
        held w₂ = held (TrackerWorld.setHealth w₁ kind r .synced) := by
      split at hwarn
      · simp only [TrackerWorld.warn, ends_modify_iff] at hwarn
        rw [hwarn]
        exact hrec.log _ _
      · obtain ⟨rfl, -⟩ := ends_done_iff.mp hwarn
        exact ⟨rfl, rfl⟩
    refine ⟨by rw [hlog.2, hrec.held_setHealth, hk₁], fun r' hr' => ?_⟩
    have hne : r' ≠ r := fun h => hr' (h ▸ List.mem_cons_self)
    rw [hlog.1, hrec.health_setHealth_of_ne _ _ _ _ _ hne, hh₁]
  | @next r rs w w₁ w₂ res shown hpoll _ _ ih =>
    obtain ⟨hh₁, hk₁⟩ := hrec.ends_poll hpoll
    refine ⟨by rw [ih.1, hrec.held_setHealth, hk₁], fun r' hr' => ?_⟩
    have hne : r' ≠ r := fun h => hr' (h ▸ List.mem_cons_self)
    rw [ih.2 r' fun h => hr' (List.mem_cons_of_mem r h), hrec.health_setHealth_of_ne _ _ _ _ _ hne, hh₁]

/-- **Each probed instance's record is the health it showed**, when the instances probed are
distinct and their records held. -/
theorem Tracker.Probes.health_of_mem (hrec : t.Records held) {rs : List Role} {w w' : σ}
    {shown : List (Role × Health)} (hp : t.Probes kind rs w shown w') (hnd : rs.Nodup)
    (hheld : ∀ r ∈ rs, held w kind r) :
    ∀ x ∈ shown, TrackerWorld.health w' kind x.1 = x.2 := by
  induction hp with
  | nil => intro x hx; cases hx
  | @synced r rs w w₁ w₂ res hpoll _ hwarn =>
    intro x hx
    rw [List.mem_singleton.mp hx]
    obtain ⟨hh₁, hk₁⟩ := hrec.ends_poll hpoll
    have hr : held w₁ kind r := hk₁ ▸ hheld r List.mem_cons_self
    split at hwarn
    · simp only [TrackerWorld.warn, ends_modify_iff] at hwarn
      rw [hwarn, (hrec.log _ _).1]
      exact hrec.health_setHealth _ _ _ _ hr
    · obtain ⟨rfl, -⟩ := ends_done_iff.mp hwarn
      exact hrec.health_setHealth _ _ _ _ hr
  | @next r rs w w₁ w₂ res shown hpoll _ hrest ih =>
    intro x hx
    obtain ⟨hh₁, hk₁⟩ := hrec.ends_poll hpoll
    have hnd' := (List.nodup_cons.mp hnd)
    rcases List.mem_cons.mp hx with rfl | hx
    · -- the later probes leave this instance's record as it was recorded
      have hr : held w₁ kind r := hk₁ ▸ hheld r List.mem_cons_self
      rw [(hrest.frame hrec).2 r hnd'.1]
      exact hrec.health_setHealth _ _ _ _ hr
    · refine ih hnd'.2 (fun r' hr' => ?_) x hx
      rw [hrec.held_setHealth, hk₁]
      exact hheld r' (List.mem_cons_of_mem r hr')

/-- Probes that found no synced instance probed every instance, in order. -/
theorem Tracker.Probes.roles_of_not_synced {rs : List Role} {w w' : σ}
    {shown : List (Role × Health)} (hp : t.Probes kind rs w shown w')
    (hs : ∀ x ∈ shown, x.2.isSynced = false) : shown.map Prod.fst = rs := by
  induction hp with
  | nil => rfl
  | synced =>
    have h := hs _ List.mem_cons_self
    cases h
  | next _ _ _ ih =>
    rw [List.map_cons, ih fun x hx => hs x (List.mem_cons_of_mem _ hx)]

/-- When the probes go over the instances of the service, the scan gives what the policy gives
from the healths they showed: the texts read back from the records are those shown. -/
theorem Tracker.Probes.scanResult_eq_policy (hrec : t.Records held) {w w' : σ}
    {shown : List (Role × Health)} (hp : t.Probes kind (t.roles kind) w shown w')
    (hheld : ∀ r ∈ t.roles kind, held w kind r) :
    t.scanResult kind w' shown = Tracker.policy kind (t.hasFallback kind) shown := by
  unfold Tracker.scanResult Tracker.policy
  cases hc : Selection.choose shown with
  | some sel => rfl
  | none =>
    -- with no choice, no instance was synced: every instance was probed, and its record is
    -- the health it showed
    have hs : ∀ x ∈ shown, x.2.isSynced = false := by
      intro x hx
      cases hf : shown.find? (·.2.isSynced) with
      | some y =>
        unfold Selection.choose at hc
        rw [hf] at hc
        cases hc
      | none => simpa using List.find?_eq_none.mp hf x hx
    have hfst := hp.roles_of_not_synced hs
    have hlook := lookup_eq_of_agrees (hp.health_of_mem hrec (Tracker.nodup_roles t kind) hheld)
    simp only [Tracker.failureIn, Tracker.healthIn, hlook, hfst]
    rw [Tracker.roles_eq]
    cases t.hasFallback kind <;> simp

/-- **The tracker selects an instance as the policy says.** The instances of a service are
probed in order of precedence, the primary first. An evaluation runs exactly the probes of
`Tracker.Probes`, so none after the first synced instance, and ends with what the policy gives
from the healths they showed. A probe of an instance classifies it as `ExecutionApi.Polls` and
`BeaconApi.Polls` say. -/
theorem Tracker.evaluate_follows_policy (hrec : t.Records held) {w w' : σ}
    (hheld : ∀ r ∈ t.roles kind, held w kind r) {res : Except HealthError Selection} :
    t.roles kind = (if t.hasFallback kind then [.primary, .fallback] else [.primary]) ∧
    (Ends w (t.evaluate kind) w' res ↔
      ∃ shown, t.Probes kind (t.roles kind) w shown w' ∧
        res = Tracker.policy kind (t.hasFallback kind) shown) ∧
    (∀ r api, t.execution.get? r = some api → ∀ w₀ w₁ p,
      Ends w₀ (t.poll .execution r) w₁ p ↔
        api.Polls t.config.recentBlockThreshold t.wallClock w₀ w₁ p) ∧
    (∀ r api, t.beacon.get? r = some api → ∀ w₀ w₁ p,
      Ends w₀ (t.poll .beacon r) w₁ p ↔ api.Polls w₀ w₁ p) := by
  refine ⟨Tracker.roles_eq t kind, ?_, fun r api hr w₀ w₁ p => ?_, fun r api hr w₀ w₁ p => ?_⟩
  · unfold Tracker.evaluate
    rw [Tracker.ends_scan_iff]
    constructor
    · rintro ⟨shown, hp, rfl⟩
      exact ⟨shown, hp, hp.scanResult_eq_policy hrec hheld⟩
    · rintro ⟨shown, hp, rfl⟩
      exact ⟨shown, hp, (hp.scanResult_eq_policy hrec hheld).symm⟩
  · rw [Tracker.poll_execution t hr]
    exact ExecutionApi.ends_pollSynced_iff
  · rw [Tracker.poll_beacon t hr]
    exact BeaconApi.ends_pollSynced_iff

/-- In the scenario of one block, whose execution node is synced, the execution service is
evaluated to its primary, the one instance probed. -/
theorem evaluate_follows_policy_oneBlock :
    ∃ w' shown, (World.oneBlock.tracker {} 0).Probes .execution [.primary] World.oneBlock shown w' ∧
      Except.ok (Selection.ready .primary) = Tracker.policy .execution false shown := by
  obtain ⟨w', hend⟩ : ∃ w', Ends World.oneBlock ((World.oneBlock.tracker {} 0).evaluate .execution)
      w' (.ok (.ready .primary)) := ⟨_, ends_of_run 1000 (by with_unfolding_all rfl)⟩
  have hheld : ∀ r ∈ (World.oneBlock.tracker {} 0).roles .execution,
      World.held World.oneBlock .execution r := by
    intro r hr
    have hr : r = .primary := List.mem_singleton.mp hr
    subst hr
    rfl
  exact ⟨w', (Tracker.evaluate_follows_policy (World.tracker_records World.oneBlock {} 0)
    hheld).2.1.mp hend⟩

end Scan

end ChainWatch
