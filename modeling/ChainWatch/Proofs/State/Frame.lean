import ChainWatch.Proofs.Fiber.Frame
import ChainWatch.State.Manager
import ChainWatch.State.Accounts

/-!
# What the services and the manager leave alone

A view of the world is kept by a client when every request it serves keeps it
(`ExecutionApi.Keeps`, `BeaconApi.Keeps`), by a tracker when its clients keep it and so do the
records of health and the log lines it writes (`Tracker.Keeps`), by a fetcher when it keeps it
over every client that does (`DetailsFetcher.Keeps`), and by a manager when its tracker, its
fetcher and its identities keep it (`Manager.Keeps`).

From these, every operation of a manager keeps the view (`Manager.Keeps.build` and the lemmas
after it): a build reads through the clients it chose, and those are the tracker's, so they keep
the view too (`Manager.Keeps.readyExecution`).
-/

namespace ChainWatch

open ChainWatch.Fiber

variable {σ ν α D N : Type}

/-- Every instance of a service satisfies `P`. -/
def Endpoints.All (P : α → Prop) (e : Endpoints α) : Prop :=
  P e.primary ∧ ∀ a, e.fallback = some a → P a

theorem Endpoints.All.get? {P : α → Prop} {e : Endpoints α} (h : e.All P) {r : Role} {a : α}
    (ha : e.get? r = some a) : P a := by
  cases r with
  | primary =>
    cases ha
    exact h.1
  | fallback => exact h.2 a ha

/-- Every request an execution client serves keeps `view`. -/
structure ExecutionApi.Keeps (view : σ → ν) (api : ExecutionApi σ) : Prop where
  headerByNumber : ∀ n, Fiber.Keeps view (api.headerByNumber n)
  syncProgress : Fiber.Keeps view api.syncProgress
  codeAt : ∀ a n, Fiber.Keeps view (api.codeAt a n)
  batchRequest : ∀ calls, Fiber.Keeps view (api.batchRequest calls)

/-- Every request a beacon client serves keeps `view`. -/
structure BeaconApi.Keeps (view : σ → ν) (api : BeaconApi σ) : Prop where
  chainConfig : Fiber.Keeps view api.chainConfig
  beaconHead : Fiber.Keeps view api.beaconHead
  beaconBlock : ∀ slot, Fiber.Keeps view (api.beaconBlock slot)
  syncStatus : Fiber.Keeps view api.syncStatus

/-- What a fetcher reads through a client that keeps `view` keeps it. -/
structure DetailsFetcher.Keeps (view : σ → ν) (f : DetailsFetcher σ D N) : Prop where
  entityAddresses : ∀ api n, api.Keeps view → Fiber.Keeps view (f.entityAddresses api n)
  networkDetails : ∀ api n, api.Keeps view → Fiber.Keeps view (f.networkDetails api n)
  fetchBatch : ∀ api n batch, api.Keeps view → Fiber.Keeps view (f.fetchBatch api n batch)

theorem ExecutionApi.Keeps.pollSynced {view : σ → ν} {api : ExecutionApi σ} (h : api.Keeps view)
    (thresholdMs wallClock : Nat) : Fiber.Keeps view (api.pollSynced thresholdMs wallClock) := by
  have hnewest : Fiber.Keeps view (ExecutionApi.pollSynced.newest api thresholdMs wallClock) :=
    (h.headerByNumber none).bind fun r _ => by cases r <;> exact .done trivial
  refine h.syncProgress.bind fun r _ => ?_
  rcases r with e | _ | p
  · exact .done trivial
  · exact hnewest
  · dsimp only
    split
    · exact .done trivial
    · exact hnewest

theorem BeaconApi.Keeps.pollSynced {view : σ → ν} {api : BeaconApi σ} (h : api.Keeps view) :
    Fiber.Keeps view api.pollSynced :=
  h.syncStatus.bind fun r _ => by cases r <;> exact .done trivial

theorem DetailsFetcher.Keeps.fetchInBatches {view : σ → ν} {f : DetailsFetcher σ D N}
    (hf : f.Keeps view) {api : ExecutionApi σ} (ha : api.Keeps view) (block : Nat)
    (addresses : List Address) (batchSize concurrency : Nat) :
    Fiber.Keeps view (f.fetchInBatches api block addresses batchSize concurrency) := by
  -- every batch is a job of the window that keeps the view
  have hjobs : ∀ p ∈ (chunksOf (max batchSize 1) (by omega) (firstOccurrences addresses)).map
      (f.batchJob api block), Fiber.Keeps view p := by
    intro p hp
    obtain ⟨batch, _, rfl⟩ := List.mem_map.mp hp
    refine (hf.fetchBatch api block batch ha).bind fun r _ => ?_
    rcases r with e | ds
    · exact .done trivial
    · dsimp only
      split <;> exact .done trivial
  exact (Keeps.window _ hjobs).bind fun r _ => by cases r <;> exact .done trivial

/-! ### The tracker -/

/-- A probe keeps what the clients keep. -/
theorem Tracker.keeps_poll {view : σ → ν} {t : Tracker σ}
    (he : t.execution.All (ExecutionApi.Keeps view)) (hb : t.beacon.All (BeaconApi.Keeps view))
    (kind : ServiceKind) (role : Role) : Fiber.Keeps view (t.poll kind role) := by
  unfold Tracker.poll Tracker.probe?
  cases kind with
  | execution =>
    cases ha : t.execution.get? role with
    | none => exact .done trivial
    | some api => exact (he.get? ha).pollSynced _ _
  | beacon =>
    cases ha : t.beacon.get? role with
    | none => exact .done trivial
    | some api => exact (hb.get? ha).pollSynced

section Tracker

variable [TrackerWorld σ]

/-- What a tracker runs keeps `view`: the requests of its clients, the health it records and the
warnings it logs. -/
structure Tracker.Keeps (view : σ → ν) (t : Tracker σ) : Prop where
  execution : t.execution.All (ExecutionApi.Keeps view)
  beacon : t.beacon.All (BeaconApi.Keeps view)
  setHealth : ∀ w kind role h, view (TrackerWorld.setHealth w kind role h) = view w
  log : ∀ w r, view (TrackerWorld.log w r) = view w

namespace Tracker.Keeps

variable {view : σ → ν} {t : Tracker σ}

theorem record (h : t.Keeps view) (kind : ServiceKind) (role : Role) (health : Health) :
    Fiber.Keeps view (TrackerWorld.record kind role health : Fiber σ Unit) :=
  .update (fun w => h.setHealth w kind role health) (.done trivial)

theorem warn (h : t.Keeps view) (message : String) :
    Fiber.Keeps view (TrackerWorld.warn message : Fiber σ Unit) :=
  .update (fun w => h.log w _) (.done trivial)

theorem scan (h : t.Keeps view) (kind : ServiceKind) :
    ∀ (roles : List Role) (waiting : Option Role), Fiber.Keeps view (t.scan kind roles waiting)
  | [], some _ => .done trivial
  | [], none => .read fun _ => .done trivial
  | r :: rs, waiting => by
    refine (Tracker.keeps_poll h.execution h.beacon kind r).bind fun res _ =>
      (h.record kind r _).bind fun _ _ => ?_
    -- after the record, the scan stops at a synced instance or goes on with the rest
    split
    · split
      · exact (h.warn _).bind fun _ _ => .done trivial
      · exact .done trivial
    · exact h.scan kind rs _
    · exact h.scan kind rs _

theorem evaluate (h : t.Keeps view) (kind : ServiceKind) : Fiber.Keeps view (t.evaluate kind) :=
  h.scan kind _ _

theorem readyRole (h : t.Keeps view) (kind : ServiceKind) : Fiber.Keeps view (t.readyRole kind) :=
  (h.evaluate kind).bind fun r _ => by
    rcases r with e | sel | sel <;> exact .done trivial

end Tracker.Keeps

/-- How a world keeps the records of health of a tracker's instances; `held w kind role` says
that the world holds a record for that instance. A held record reads back the health last
recorded; recording one instance keeps the records of the others and which records are held;
and the probes of the tracker, its log and time keep every record. -/
structure Tracker.Records (t : Tracker σ) (held : σ → ServiceKind → Role → Prop) : Prop where
  health_setHealth : ∀ (w : σ) k r h, held w k r →
    TrackerWorld.health (TrackerWorld.setHealth w k r h) k r = h
  health_setHealth_of_ne : ∀ (w : σ) k r r' h, r' ≠ r →
    TrackerWorld.health (TrackerWorld.setHealth w k r h) k r' = TrackerWorld.health w k r'
  held_setHealth : ∀ (w : σ) k r h, held (TrackerWorld.setHealth w k r h) = held w
  log : ∀ (w : σ) l, TrackerWorld.health (TrackerWorld.log w l) = TrackerWorld.health w ∧
    held (TrackerWorld.log w l) = held w
  setNow : ∀ (w : σ) n, TrackerWorld.health (VirtualClock.setNow w n) = TrackerWorld.health w ∧
    held (VirtualClock.setNow w n) = held w
  poll : ∀ k r, Fiber.Keeps (fun (w : σ) => (TrackerWorld.health w, held w)) (t.poll k r)

/-- A probe keeps every record and which are held. -/
theorem Tracker.Records.ends_poll {t : Tracker σ} {held : σ → ServiceKind → Role → Prop}
    (hrec : t.Records held) {kind : ServiceKind} {r : Role} {w w' : σ}
    {res : Except ClientError SyncPoll} (h : Ends w (t.poll kind r) w' res) :
    TrackerWorld.health w' = TrackerWorld.health w ∧ held w' = held w := by
  have hclock : ∀ w n, (TrackerWorld.health (VirtualClock.setNow w n), held (VirtualClock.setNow w n)) =
      (TrackerWorld.health w, held w) := fun w n => by rw [(hrec.setNow w n).1, (hrec.setNow w n).2]
  have hv := ((hrec.poll kind r).ends hclock h).1
  exact ⟨congrArg Prod.fst hv, congrArg Prod.snd hv⟩

end Tracker

/-! ### The manager -/

/-- Waiting for a token changes nothing. -/
theorem CancelToken.keeps_cancelled [VirtualClock σ] {view : σ → ν} (tok : CancelToken) :
    Fiber.Keeps view (tok.cancelled : Fiber σ Unit) := by
  cases tok with
  | never => exact Keeps.hang
  | already => exact .done trivial
  | firesAt t => exact Keeps.waitUntilTick _

/-- Racing a token keeps what the body keeps. -/
theorem Fiber.Keeps.cancellable [VirtualClock σ] {view : σ → ν} (tok : CancelToken)
    {body : Fiber σ (Except StateError α)} (h : Fiber.Keeps view body) :
    Fiber.Keeps view (ChainWatch.cancellable tok body) :=
  (tok.keeps_cancelled.race h).bind fun r _ => by cases r <;> exact .done trivial

namespace Manager

/-! The reads of a build through clients it was given need nothing of the tracker. -/

namespace Keeps

variable {view : σ → ν}

theorem headSlotWith (m : Manager σ D N) {api : ExecutionApi σ} (ha : api.Keeps view) :
    Fiber.Keeps view (m.headSlotWith api) :=
  (ha.headerByNumber none).bind fun r _ => by cases r <;> exact .done trivial

theorem finalizedSlotWith (m : Manager σ D N) {api : BeaconApi σ} (ha : api.Keeps view) :
    Fiber.Keeps view (m.finalizedSlotWith api) :=
  ha.beaconHead.bind fun r _ => by cases r <;> exact .done trivial

theorem walkBack (m : Manager σ D N) {api : BeaconApi σ} (ha : api.Keeps view) (fromSlot : Nat) :
    ∀ count slot, Fiber.Keeps view (m.walkBack api fromSlot count slot)
  | 0, _ => .done trivial
  | count + 1, slot => (ha.beaconBlock slot).bind fun r _ => by
    rcases r with e | _ | b
    · exact .done trivial
    · exact walkBack m ha fromSlot count _
    · exact .done trivial

theorem resolveBlock (m : Manager σ D N) {api : BeaconApi σ} (ha : api.Keeps view)
    (fromSlot : Nat) : Fiber.Keeps view (m.resolveBlock api fromSlot) :=
  walkBack m ha fromSlot _ _

theorem targetSlotWith (m : Manager σ D N) {exec : ExecutionApi σ} {beacon : BeaconApi σ}
    (he : exec.Keeps view) (hb : beacon.Keeps view) (target : BuildTarget) :
    Fiber.Keeps view (m.targetSlotWith exec beacon target) := by
  cases target with
  | head => exact headSlotWith m he
  | finalized => exact finalizedSlotWith m hb
  | slot n => exact .done trivial

end Keeps

variable [TrackerWorld σ]

/-- What a manager runs keeps `view`: its tracker, its fetcher and its identities. -/
structure Keeps (view : σ → ν) (m : Manager σ D N) : Prop where
  tracker : m.tracker.Keeps view
  fetcher : m.fetcher.Keeps view
  freshId : Fiber.Keeps view m.freshId

namespace Keeps

variable {view : σ → ν} {m : Manager σ D N}

/-- The client a build picks keeps the view, since it is one of the tracker's. -/
theorem readyExecution (h : m.Keeps view) :
    Framed view (fun r => ∀ api, r = .ok api → api.Keeps view) m.readyExecution := by
  refine (h.tracker.readyRole .execution).bind fun r _ => ?_
  rcases r with e | role
  · exact .done (by simp)
  · dsimp only
    split
    · rename_i api ha
      exact .done fun _ he => by cases he; exact h.tracker.execution.get? ha
    · exact .done (by simp)

theorem readyBeacon (h : m.Keeps view) :
    Framed view (fun r => ∀ api, r = .ok api → api.Keeps view) m.readyBeacon := by
  refine (h.tracker.readyRole .beacon).bind fun r _ => ?_
  rcases r with e | role
  · exact .done (by simp)
  · dsimp only
    split
    · rename_i api ha
      exact .done fun _ he => by cases he; exact h.tracker.beacon.get? ha
    · exact .done (by simp)

theorem assemble (h : m.Keeps view) {exec : ExecutionApi σ} {beacon : BeaconApi σ}
    (he : exec.Keeps view) (hb : beacon.Keeps view) (targetSlot : Nat) (filter : EntityFilter) :
    Fiber.Keeps view (m.assemble exec beacon targetSlot filter) := by
  have hentities : ∀ n, Fiber.Keeps view (m.entitiesAt exec n filter) := by
    intro n
    cases filter with
    | all =>
      refine (h.fetcher.entityAddresses exec n he).bind fun r _ => ?_
      cases r <;> exact .done trivial
    | single a => exact .done trivial
  have hnetwork : ∀ n, Fiber.Keeps view (m.networkAt exec n) := fun n =>
    (h.fetcher.networkDetails exec n he).bind fun r _ => by cases r <;> exact .done trivial
  refine (resolveBlock m hb targetSlot).bind fun r _ => ?_
  rcases r with e | block
  · exact .done trivial
  · dsimp only
    split
    · exact .done trivial
    · rename_i n _
      refine (hentities n).bind fun r _ => ?_
      rcases r with e | addresses
      · exact .done trivial
      · -- the network and the batches are read side by side, then the identity is drawn
        refine ((hnetwork n).bothOrFail
          (h.fetcher.fetchInBatches he n addresses _ _)).bind fun r _ => ?_
        rcases r with e | ⟨x, ds⟩
        · exact .done trivial
        · exact h.freshId.bind fun _ _ => .done trivial

/-- **A build keeps every view its manager keeps.** -/
theorem build (h : m.Keeps view) (target : BuildTarget) (filter : EntityFilter) :
    Fiber.Keeps view (m.build target filter) := by
  refine h.readyExecution.bind fun r hr => ?_
  rcases r with e | exec
  · exact .done trivial
  · refine h.readyBeacon.bind fun r' hr' => ?_
    rcases r' with e | beacon
    · exact .done trivial
    · have he := hr exec rfl
      have hb := hr' beacon rfl
      refine (targetSlotWith m he hb target).bind fun s _ => ?_
      rcases s with e | s
      · exact .done trivial
      · exact h.assemble he hb s filter

theorem stateAt (h : m.Keeps view) (target : BuildTarget) (tok : CancelToken) :
    Fiber.Keeps view (m.stateAt target tok) :=
  (h.build target .all).cancellable tok

theorem headSlot (h : m.Keeps view) : Fiber.Keeps view m.headSlot := by
  refine h.readyExecution.bind fun r hr => ?_
  rcases r with e | exec
  · exact .done trivial
  · exact headSlotWith m (hr exec rfl)

theorem latestProposedBlock (h : m.Keeps view) (fromSlot : Nat) (tok : CancelToken) :
    Fiber.Keeps view (m.latestProposedBlock fromSlot tok) := by
  refine Fiber.Keeps.cancellable tok (h.readyBeacon.bind fun r hr => ?_)
  rcases r with e | beacon
  · exact .done trivial
  · exact resolveBlock m (hr beacon rfl) fromSlot

theorem latestBeaconBlock (h : m.Keeps view) (tok : CancelToken) :
    Fiber.Keeps view (m.latestBeaconBlock tok) := by
  refine Fiber.Keeps.cancellable tok (h.readyExecution.bind fun r hr => ?_)
  rcases r with e | exec
  · exact .done trivial
  · refine h.readyBeacon.bind fun r' hr' => ?_
    rcases r' with e | beacon
    · exact .done trivial
    · refine (headSlotWith m (hr exec rfl)).bind fun s _ => ?_
      rcases s with e | s
      · exact .done trivial
      · exact resolveBlock m (hr' beacon rfl) s

theorem latestFinalizedBeaconBlock (h : m.Keeps view) (tok : CancelToken) :
    Fiber.Keeps view (m.latestFinalizedBeaconBlock tok) := by
  refine Fiber.Keeps.cancellable tok (h.readyBeacon.bind fun r hr => ?_)
  rcases r with e | beacon
  · exact .done trivial
  · refine (finalizedSlotWith m (hr beacon rfl)).bind fun s _ => ?_
    rcases s with e | s
    · exact .done trivial
    · exact resolveBlock m (hr beacon rfl) s

end Keeps

variable (m : Manager σ D N)

/-- The published snapshot of `m` changes only by publishing: a published snapshot is read back,
and what the manager runs over (its clients, its fetcher, its identities and the records of its
tracker) and time keep it. -/
structure Sealed : Prop where
  latest_publish : ∀ s w, m.latest (m.publish s w) = some s
  keeps : m.Keeps m.latest
  latest_setNow : ∀ w t, m.latest (VirtualClock.setNow w t) = m.latest w

end Manager

/-- The account fetcher reads only through the client it is given. -/
theorem accountFetcher_keeps {view : σ → ν} (accounts : List Address) :
    (accountFetcher accounts : DetailsFetcher σ AccountDetails ExecutionHeader).Keeps view where
  entityAddresses _ _ _ := .done trivial
  networkDetails _ n ha := ha.headerByNumber (some n)
  fetchBatch _ _ _ ha := (ha.batchRequest _).bind fun r _ => by
    rcases r with e | values
    · exact .done trivial
    · dsimp only
      split <;> exact .done trivial

end ChainWatch
