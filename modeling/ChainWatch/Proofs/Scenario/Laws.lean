import ChainWatch.Proofs.Fiber.Ends
import ChainWatch.Proofs.State.Frame
import ChainWatch.Scenario.World

/-!
# Laws of the world of a scenario

The world of a scenario keeps its clock, the health of each instance, the wait locks and the
published snapshot in fields of their own, so each setter changes its own part only. This module
states those laws for `World`, so that the general statements about trackers and managers apply
to the scenarios, and fixes a small world with one block that those statements are tried on.
-/

namespace ChainWatch

instance : LawfulClock World := ⟨fun _ _ => rfl⟩

namespace World

/-- A chain of one-second slots and one-slot epochs from time zero. -/
def secondSlots : ChainConfig :=
  { genesisTime := 0, secondsPerSlot := 1, slotsPerEpoch := 1, genesisTime_lt := by decide,
    secondsPerSlot_lt := by decide, slotsPerEpoch_lt := by decide,
    secondsPerSlot_pos := by decide, slotsPerEpoch_pos := by decide }

/-- A manager of no accounts over one-second slots. -/
def emptyManager : ManagerSlot := { chain := secondSlots, config := StateConfig.default, accounts := [] }

/-- A world whose nodes answer with their defaults, whose beacon node knows one block, at slot
zero with execution block 1000, and which holds a manager of no accounts. -/
def oneBlock : World :=
  { World.start ⟨{}, none⟩ ⟨{ blocks := [⟨0, 0, some 1000, none⟩] }, none⟩ with
    manager := some emptyManager }

end World

/-! ### What the scripted nodes leave alone -/

section Scripted

open ChainWatch.Fiber

variable {σ ν : Type} [VirtualClock σ] {view : σ → ν}

/-- A scripted execution node changes only its own state. -/
theorem ScriptedExecution.keeps_api {get : σ → ScriptedExecution}
    {set : σ → ScriptedExecution → σ} (hset : ∀ w n, view (set w n) = view w) :
    (ScriptedExecution.api get set).Keeps view where
  headerByNumber _ := .read fun _ => .update (fun w => hset w _) (.done trivial)
  syncProgress := .read fun _ => by
    dsimp only
    split
    · exact .update (fun w => hset w _) Keeps.hang
    · exact .update (fun w => hset w _) (.done trivial)
  codeAt _ _ := .read fun _ => .update (fun w => hset w _) (.done trivial)
  batchRequest _ := .read fun _ => .update (fun w => hset w _)
    ((Keeps.sleep _).bind fun _ _ => .read fun _ => .done trivial)

/-- A scripted beacon node changes only its own state. -/
theorem ScriptedBeacon.keeps_api {get : σ → ScriptedBeacon} {set : σ → ScriptedBeacon → σ}
    (hset : ∀ w n, view (set w n) = view w) : (ScriptedBeacon.api get set).Keeps view where
  chainConfig := .read fun _ => .update (fun w => hset w _) (.done trivial)
  beaconHead := .read fun _ => .update (fun w => hset w _) (.done trivial)
  beaconBlock _ := .read fun _ => .update (fun w => hset w _) (.done trivial)
  syncStatus := .read fun _ => by
    dsimp only
    split
    · exact .update (fun w => hset w _) Keeps.hang
    · exact .update (fun w => hset w _) (.done trivial)

end Scripted

/-- The nodes of a world keep every view that only their own states change. -/
theorem World.tracker_clients_keep {ν : Type} {view : World → ν} (w : World) (config : HealthConfig)
    (wallClock : Nat) (hexec : ∀ w r n, view (w.setExecutionNode r n) = view w)
    (hbeacon : ∀ w r n, view (w.setBeaconNode r n) = view w) :
    (w.tracker config wallClock).execution.All (ExecutionApi.Keeps view) ∧
      (w.tracker config wallClock).beacon.All (BeaconApi.Keeps view) := by
  refine ⟨⟨ScriptedExecution.keeps_api (hexec · _), fun a ha => ?_⟩,
    ⟨ScriptedBeacon.keeps_api (hbeacon · _), fun a ha => ?_⟩⟩
  · obtain ⟨_, _, rfl⟩ := Option.map_eq_some_iff.mp ha
    exact ScriptedExecution.keeps_api (hexec · _)
  · obtain ⟨_, _, rfl⟩ := Option.map_eq_some_iff.mp ha
    exact ScriptedBeacon.keeps_api (hbeacon · _)

/-- The tracker of a scenario keeps every view that the world's nodes, records and log keep. -/
theorem World.tracker_keeps {ν : Type} {view : World → ν} (w : World) (config : HealthConfig)
    (wallClock : Nat) (hexec : ∀ w r n, view (w.setExecutionNode r n) = view w)
    (hbeacon : ∀ w r n, view (w.setBeaconNode r n) = view w)
    (hset : ∀ w kind role h, view (TrackerWorld.setHealth w kind role h) = view w)
    (hlog : ∀ w l, view (TrackerWorld.log w l) = view w) : (w.tracker config wallClock).Keeps view where
  execution := (w.tracker_clients_keep config wallClock hexec hbeacon).1
  beacon := (w.tracker_clients_keep config wallClock hexec hbeacon).2
  setHealth := hset
  log := hlog

/-- **The manager of a scenario publishes into its own slot only**: nothing but publishing
changes what it has published. -/
theorem World.managerOf_sealed (w : World) (config : HealthConfig) (wallClock : Nat)
    (slot : ManagerSlot) : (World.managerOf (w.tracker config wallClock) slot).Sealed where
  latest_publish _ _ := rfl
  latest_setNow _ _ := rfl
  keeps :=
    { tracker := w.tracker_keeps config wallClock (fun _ _ _ => rfl) (fun _ _ _ => rfl)
        (fun _ kind _ _ => by cases kind <;> rfl) fun _ _ => rfl
      fetcher := accountFetcher_keeps _
      freshId := .read fun _ => .update (fun _ => rfl) (.done trivial) }

/-! ### The records of health -/

namespace Endpoints

variable {α : Type}

theorem get?_set_of_isSome {e : Endpoints α} {r : Role} (a : α) (h : (e.get? r).isSome) :
    (e.set r a).get? r = some a := by
  cases r with
  | primary => rfl
  | fallback =>
    cases hf : e.fallback with
    | none => simp [get?, hf] at h
    | some _ => simp [set, get?, hf]

theorem get?_set_of_ne {e : Endpoints α} {r r' : Role} (a : α) (h : r' ≠ r) :
    (e.set r a).get? r' = e.get? r' := by
  cases r <;> cases r' <;> first | exact absurd rfl h | rfl

theorem isSome_get?_set (e : Endpoints α) (r r' : Role) (a : α) :
    ((e.set r a).get? r').isSome = (e.get? r').isSome := by
  cases r <;> cases r' <;> simp [set, get?]

end Endpoints

/-- The records of health of a service in the world. -/
def World.records (w : World) : ServiceKind → Endpoints Health
  | .execution => w.executionHealth
  | .beacon => w.beaconHealth

/-- The world holds a record of health for the instances of its services. -/
def World.held (w : World) (kind : ServiceKind) (role : Role) : Prop :=
  ((w.records kind).get? role).isSome

theorem World.health_eq (w : World) (kind : ServiceKind) (role : Role) :
    TrackerWorld.health w kind role = ((w.records kind).get? role).getD .unknown := by
  cases kind <;> rfl

theorem World.records_setHealth (w : World) (kind k : ServiceKind) (role : Role) (h : Health) :
    (TrackerWorld.setHealth w kind role h).records k =
      if k = kind then (w.records kind).set role h else w.records k := by
  cases kind <;> cases k <;> rfl

/-- **A world of a scenario keeps the records of health of its tracker.** -/
theorem World.tracker_records (w : World) (config : HealthConfig) (wallClock : Nat) :
    (w.tracker config wallClock).Records World.held where
  health_setHealth w' k r h hr := by
    rw [World.health_eq, World.records_setHealth, if_pos rfl, Endpoints.get?_set_of_isSome h hr]
    rfl
  health_setHealth_of_ne w' k r r' h hne := by
    rw [World.health_eq, World.records_setHealth, if_pos rfl, Endpoints.get?_set_of_ne h hne,
      World.health_eq]
  held_setHealth w' k r h := by
    funext k' r'
    unfold World.held
    rw [World.records_setHealth]
    split
    · rename_i hk
      rw [hk, Endpoints.isSome_get?_set]
    · rfl
  log _ _ := ⟨rfl, rfl⟩
  setNow _ _ := ⟨rfl, rfl⟩
  poll := Tracker.keeps_poll
    (w.tracker_clients_keep config wallClock (fun _ _ _ => rfl) fun _ _ _ => rfl).1
    (w.tracker_clients_keep config wallClock (fun _ _ _ => rfl) fun _ _ _ => rfl).2

end ChainWatch
