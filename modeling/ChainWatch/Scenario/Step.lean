import ChainWatch.Scenario.World
import ChainWatch.Json.Fields
import ChainWatch.Json.Parse

/-!
# Steps of a scenario

A scenario is a list of steps run one after another on one world. A step asks the tracker or
the manager something, changes what a scripted node answers, or runs several steps side by side
(`Step.concurrent`), each starting after its own delay. A step may carry a cancellation: from the
start, or some milliseconds into the step.

This module reads steps and scripted nodes from their JSON descriptions. A description that
cannot be read is kept as the reason it cannot, which becomes the step's answer.
-/

namespace ChainWatch

/-- When the token of a step is cancelled. -/
inductive CancelSpec where
  | never
  /-- Before the step starts. -/
  | before
  /-- This many milliseconds into the step. -/
  | after (ms : Nat)
  deriving DecidableEq

/-- The token of a step that starts at `start`. -/
def CancelSpec.token (c : CancelSpec) (start : Nat) : CancelToken :=
  match c with
  | .never => .never
  | .before => .already
  | .after ms => .firesAt (start + ms)

/-- One thing a step does. -/
inductive Action where
  | checkStatus (kind : ServiceKind)
  | waitUntilSynced (kind : ServiceKind) (timeoutMs : Nat)
  | requireSynced (kind : ServiceKind)
  | waitSynced (kind : ServiceKind)
  | requireContract (address : Address)
  | waitContract (address : Address)
  | readyClient (kind : ServiceKind)
  | statusReport (kind : ServiceKind)
  /-- Probes an instance without recording its health, as a poll or as a health. -/
  | probe (kind : ServiceKind) (role : Role) (asHealth : Bool)
  /-- Several waits on one service side by side, sharing the step's token. -/
  | concurrentWait (kind : ServiceKind) (count timeoutMs : Nat)
  | hasFallback (kind : ServiceKind)
  | endpointRoles (kind : ServiceKind)
  | latestEntity (address : Address)
  /-- Changes what a scripted execution node answers. -/
  | changeExecution (role : Role) (change : ScriptedExecution → ScriptedExecution)
  /-- Changes what a scripted beacon node answers. -/
  | changeBeacon (role : Role) (change : ScriptedBeacon → ScriptedBeacon)
  | newManager (chain : Except ConfigError ChainConfig) (config : Except ConfigError StateConfig)
      (accounts : List Address)
  | connect (config : Except ConfigError StateConfig) (accounts : List Address)
  | headSlot
  | latestProposedBlock (fromSlot : Nat)
  | latestBeaconBlock
  | latestFinalizedBeaconBlock
  /-- Builds a snapshot of every entity without publishing it. -/
  | stateAt (target : BuildTarget)
  /-- Builds a snapshot, published when it reads every entity. -/
  | buildAndPublish (target : BuildTarget) (filter : EntityFilter)
  | latestState
  /-- Builds a head snapshot with a separate manager over a scripted fetcher. -/
  | scriptedFetcherState (chain : Except ConfigError ChainConfig)
      (config : Except ConfigError StateConfig) (script : FetcherScript)

/-- A step run beside others: what it does, its cancellation, and its delay. -/
structure SideStep where
  action : Except String Action
  cancel : CancelSpec
  startMs : Nat

/-- A step of a scenario. -/
inductive Step where
  | single (action : Action) (cancel : CancelSpec)
  | concurrent (steps : List SideStep)

namespace Spec

/-- Reads an address field. -/
def addressField (j : Json) (name : String) : Except String Address := do
  (Address.parse (← j.strField name)).mapError ConfigError.message

/-- Reads a list of addresses. -/
def addressList (j : Json) (name : String) : Except String (List Address) := do
  (← j.listField name).mapM fun a => do (Address.parse (← Json.asString name a)).mapError ConfigError.message

/-- Reads a service kind. -/
def kindField (j : Json) : Except String ServiceKind := do
  match ← j.strField "kind" with
  | "execution" => pure .execution
  | "beacon" => pure .beacon
  | other => throw ("unknown kind " ++ other)

/-- Reads a role, the primary when absent. -/
def roleField (j : Json) : Except String Role := do
  match ← j.optStrField "role" with
  | none | some "primary" => pure .primary
  | some "fallback" => pure .fallback
  | some other => throw ("unknown role " ++ other)

/-- Reads hexadecimal bytes after an optional `0x`. -/
def hexBytes (s : String) : Except String (List Nat) :=
  let cs := s.toList
  let body := match cs with
    | '0' :: 'x' :: rest => rest
    | _ => cs
  go body
where
  go : List Char → Except String (List Nat)
    | [] => .ok []
    | a :: b :: rest => match Json.hexValue? a, Json.hexValue? b with
      | some x, some y => (go rest).map ((16 * x + y) :: ·)
      | _, _ => .error ("invalid hex text " ++ s)
    | _ => .error ("invalid hex text " ++ s)

/-- A text failure given as `{"error": text}`, if the value is one. -/
def failure? (j : Json) : Option String :=
  match j with
  | .obj _ => match j.get? "error" with
    | some (.str t) => some t
    | _ => none
  | _ => none

/-- Reads an entry of an execution sync script: not syncing, a sync range, or a failure. -/
def executionEntry (j : Json) : Except String (Except String (Option SyncProgress)) :=
  match failure? j with
  | some t => .ok (.error t)
  | none => match j with
    | .null | .bool _ => .ok (.ok none)
    | .arr [s, c, h] => do
      pure (.ok (some ⟨← Json.asU64 "sync_script" s, ← Json.asU64 "sync_script" c, ← Json.asU64 "sync_script" h⟩))
    | _ => .error "invalid sync script entry"

/-- Reads an entry of a beacon sync script: a sync state or a failure. -/
def beaconEntry (j : Json) : Except String (Except String BeaconSync) :=
  match failure? j with
  | some t => .ok (.error t)
  | none => match j with
    | .arr [s, h, d] => do
      pure (.ok ⟨← Json.asBool "sync_script" s, ← Json.asU64 "sync_script" h, ← Json.asU64 "sync_script" d⟩)
    | _ => .error "invalid sync script entry"

/-- Reads a block: a bare slot `n` stands for a full block of that slot, whose execution block
is `1000 + n` wrapped to 64 bits. -/
def block (j : Json) : Except String BeaconBlock :=
  match j with
  | .nat n => .ok { slot := n, proposer := n % 64, executionBlock := some ((1000 + n) % Nat.pow 2 64),
                    feeRecipient := some (Address.repeatByte 0xfe) }
  | _ => do
    let fee ← match j.get? "fee_recipient" with
      | none | some .null => pure none
      | some (.str s) => some <$> (Address.parse s).mapError ConfigError.message
      | some _ => throw "field fee_recipient is not a string"
    pure { slot := ← j.natField "slot", proposer := (← j.optNatField "proposer_index").getD 0,
           executionBlock := ← j.optNatField "execution_block_number", feeRecipient := fee }

/-- Reads head checkpoints, missing epochs being zero, or a failure. -/
def head (j : Json) : Except String (Except String Checkpoints) :=
  match failure? j with
  | some t => .ok (.error t)
  | none => do
    pure (.ok ⟨← j.natField "finalized_epoch", (← j.optNatField "justified_epoch").getD 0,
      (← j.optNatField "previous_justified_epoch").getD 0⟩)

/-- Reads the known accounts of an execution node: raw balance and nonce results. -/
def accounts (j : Json) : Except String (List (Address × Json × Json)) :=
  match j with
  | .obj _ => j.fields.mapM fun (k, v) => do
    let a ← (Address.parse k).mapError ConfigError.message
    pure (a, ← v.need "balance", ← v.need "nonce")
  | _ => .error "field accounts is not an object"

/-- Reads the code known at addresses. -/
def code (j : Json) : Except String (List (Address × List Nat)) :=
  match j with
  | .obj _ => j.fields.mapM fun (k, v) => do
    let a ← (Address.parse k).mapError ConfigError.message
    pure (a, ← hexBytes (← Json.asString "code" v))
  | _ => .error "field code is not an object"

/-- Reads a scripted execution node. -/
def execution (j : Json) : Except String ScriptedExecution := do
  let d : ScriptedExecution := {}
  let script ← match j.get? "sync_script" with
    | none => pure d.syncScript
    | some v => (← Json.asList "sync_script" v).mapM executionEntry
  let latest ← match j.get? "latest" with
    | none | some .null => pure d.latest
    | some v => pure ⟨← v.natField "number", ← v.natField "timestamp"⟩
  pure { syncScript := script, hangAfter := ← j.optNatField "hang_after", latest,
         headerError := ← j.optStrField "header_error",
         code := ← (match j.get? "code" with | none | some .null => pure [] | some v => code v),
         codeError := ← j.optStrField "code_error",
         accounts := ← (match j.get? "accounts" with | none | some .null => pure [] | some v => accounts v),
         batchError := ← j.optStrField "batch_error",
         batchDrop := (← j.optNatField "batch_drop").getD 0,
         batchDelay := (← j.optNatField "batch_delay_ms").getD 0 }

/-- Reads a scripted beacon node. -/
def beacon (j : Json) : Except String ScriptedBeacon := do
  let d : ScriptedBeacon := {}
  let script ← match j.get? "sync_script" with
    | none => pure d.syncScript
    | some v => (← Json.asList "sync_script" v).mapM beaconEntry
  let config ← match j.get? "config" with
    | none | some .null => pure d.config
    | some v => match failure? v with
      | some t => pure (.error t)
      | none => pure (.ok (← v.natField "genesis_time", ← v.natField "seconds_per_slot",
          ← v.natField "slots_per_epoch"))
  let hd ← match j.get? "head" with
    | none | some .null => pure d.head
    | some v => head v
  let blocks ← match j.get? "blocks" with
    | none | some .null => pure []
    | some v => (← Json.asList "blocks" v).mapM block
  let errors ← match j.get? "block_errors" with
    | none | some .null => pure []
    | some v => (← Json.asList "block_errors" v).mapM (Json.asU64 "block_errors")
  pure { syncScript := script, hangAfter := ← j.optNatField "hang_after", config, head := hd,
         blocks := blocks.foldl ScriptedBeacon.addBlock {} |>.blocks, blockErrors := errors }

/-- Reads the nodes of a service: a default primary when absent, no fallback when absent. -/
def service (read : Json → Except String α) (default : α) (j : Option Json) : Except String (Endpoints α) :=
  match j with
  | none | some .null => .ok ⟨default, none⟩
  | some v => do
    let primary ← match v.get? "primary" with
      | none | some .null => pure default
      | some p => read p
    let fallback ← match v.get? "fallback" with
      | none | some .null => pure none
      | some f => some <$> read f
    pure ⟨primary, fallback⟩

/-- Reads the timing of the tracker, each field defaulted. -/
def healthConfig (j : Option Json) : Except String HealthConfig :=
  match j with
  | none | some .null => .ok {}
  | some v => do
    let d : HealthConfig := {}
    pure { pollInterval := (← v.optNatField "poll_interval_ms").getD d.pollInterval,
           statusRefreshInterval := (← v.optNatField "status_refresh_interval_ms").getD d.statusRefreshInterval,
           syncTimeout := (← v.optNatField "sync_timeout_ms").getD d.syncTimeout,
           recentBlockThreshold := (← v.optNatField "recent_block_threshold_ms").getD d.recentBlockThreshold,
           contractPollInterval := (← v.optNatField "contract_poll_interval_ms").getD d.contractPollInterval }

/-- Reads a chain configuration, checking it. -/
def chainConfig (j : Json) : Except String (Except ConfigError ChainConfig) := do
  pure (ChainConfig.new? (← j.natField "genesis_time") (← j.natField "seconds_per_slot")
    (← j.natField "slots_per_epoch"))

/-- Reads the settings of builds, the defaults when absent, checking them. -/
def stateConfig (j : Option Json) : Except String (Except ConfigError StateConfig) :=
  match j with
  | none | some .null => .ok (.ok StateConfig.default)
  | some v => do
    pure (StateConfig.new? (← v.natField "batch_size") (← v.natField "max_concurrent_batches")
      (← v.natField "slot_floor"))

/-- Reads the cancellation of a step. -/
def cancel (j : Json) : Except String CancelSpec :=
  match j.get? "cancel" with
  | none | some .null => .ok .never
  | some (.str "before") => .ok .before
  | some v => do pure (.after (← v.natField "after_ms"))

/-- Reads a script mutation of a scripted execution node. -/
def executionChange (op : String) (j : Json) : Except String (ScriptedExecution → ScriptedExecution) :=
  match op with
  | "set_code" => do
    let a ← addressField j "address"
    let bytes ← hexBytes (← j.strField "code")
    pure fun n => { n with code := (a, bytes) :: n.code.filter (·.1 != a) }
  | "set_latest" => do
    let h : ExecutionHeader := ⟨← j.natField "number", ← j.natField "timestamp"⟩
    pure fun n => { n with latest := h }
  | "set_exec_errors" => do
    let he ← j.optStrField "header_error"
    let ce ← j.optStrField "code_error"
    let be ← j.optStrField "batch_error"
    let bd ← j.optNatField "batch_drop"
    pure fun n => { n with headerError := he, codeError := ce, batchError := be, batchDrop := bd.getD 0 }
  | "set_account" => do
    let a ← addressField j "address"
    let b ← j.need "balance"
    let nonce ← j.need "nonce"
    pure fun n => { n with accounts := n.accounts.filter (·.1 != a) ++ [(a, b, nonce)] }
  | "set_batch_delay" => do
    let d ← j.natField "batch_delay_ms"
    pure fun n => { n with batchDelay := d }
  | other => .error ("unknown op " ++ other)

/-- Reads a script mutation of a scripted beacon node. -/
def beaconChange (op : String) (j : Json) : Except String (ScriptedBeacon → ScriptedBeacon) :=
  match op with
  | "add_blocks" => do
    let bs ← (← j.listField "blocks").mapM block
    pure fun n => bs.foldl ScriptedBeacon.addBlock n
  | "remove_block" => do
    let s ← j.natField "slot"
    pure fun n => n.removeBlock s
  | "set_head" => do
    let h ← head (← j.need "head")
    pure fun n => { n with head := h }
  | other => .error ("unknown op " ++ other)

/-- Reads a fetcher script. -/
def fetcherScript (j : Json) : Except String FetcherScript := do
  let entities ← match j.get? "entities" with
    | none | some .null => pure []
    | some _ => addressList j "entities"
  let deltas ← match j.get? "deltas" with
    | none | some .null => pure []
    | some v => (← Json.asList "deltas" v).mapM (Json.asInt "deltas")
  let failing ← match j.get? "fail" with
    | none | some .null => pure []
    | some v => (← Json.asList "fail" v).mapM (Json.asU64 "fail")
  pure { entities, entityError := ← j.optStrField "entity_error", deltas, failing }

/-- Reads what a step does. -/
def action (j : Json) : Except String Action := do
  let op ← j.strField "op"
  match op with
  | "check_status" => return .checkStatus (← kindField j)
  | "wait_until_synced" => return .waitUntilSynced (← kindField j) (← j.natField "timeout_ms")
  | "require_synced" => return .requireSynced (← kindField j)
  | "wait_synced" => return .waitSynced (← kindField j)
  | "require_contract_deployed" => return .requireContract (← addressField j "address")
  | "wait_contract_deployed" => return .waitContract (← addressField j "address")
  | "ready_client" => return .readyClient (← kindField j)
  | "status_report" => return .statusReport (← kindField j)
  | "probe" =>
    let mode ← j.optStrField "mode"
    return .probe (← kindField j) (← roleField j) (mode == some "health")
  | "concurrent_wait" =>
    return .concurrentWait (← kindField j) (← j.natField "count") (← j.natField "timeout_ms")
  | "has_fallback" => return .hasFallback (← kindField j)
  | "endpoint_roles" => return .endpointRoles (← kindField j)
  | "latest_entity" => return .latestEntity (← addressField j "address")
  | "set_sync_script" =>
    let role ← roleField j
    let script ← j.listField "script"
    match ← kindField j with
    | .execution => do
      let entries ← script.mapM executionEntry
      return .changeExecution role fun n => { n with syncScript := entries }
    | .beacon => do
      let entries ← script.mapM beaconEntry
      return .changeBeacon role fun n => { n with syncScript := entries }
  | "set_hang_after" =>
    let role ← roleField j
    let limit ← j.optNatField "hang_after"
    match ← kindField j with
    | .execution => return .changeExecution role fun n => { n with hangAfter := limit }
    | .beacon => return .changeBeacon role fun n => { n with hangAfter := limit }
  | "set_code" | "set_latest" | "set_exec_errors" | "set_account" | "set_batch_delay" =>
    return .changeExecution (← roleField j) (← executionChange op j)
  | "add_blocks" | "remove_block" | "set_head" => return .changeBeacon (← roleField j) (← beaconChange op j)
  | "new_manager" =>
    return .newManager (← chainConfig (← j.need "beacon_config")) (← stateConfig (j.get? "state_config"))
      (← addressList j "accounts")
  | "connect" => return .connect (← stateConfig (j.get? "state_config")) (← addressList j "accounts")
  | "head_slot" => return .headSlot
  | "latest_proposed_block" => return .latestProposedBlock (← j.natField "from_slot")
  | "latest_beacon_block" => return .latestBeaconBlock
  | "latest_finalized_beacon_block" => return .latestFinalizedBeaconBlock
  | "head_state" => return .stateAt .head
  | "finalized_state" => return .stateAt .finalized
  | "state_for_slot" => return .stateAt (.slot (← j.natField "slot"))
  | "build_snapshot" =>
    let filter ← match j.get? "entity" with
      | none | some .null => pure EntityFilter.all
      | some _ => EntityFilter.single <$> addressField j "entity"
    return .buildAndPublish (.slot (← j.natField "slot")) filter
  | "head_state_for_entity" => return .buildAndPublish .head (.single (← addressField j "address"))
  | "update_state_to_head" => return .buildAndPublish .head .all
  | "update_state_to_finalized" => return .buildAndPublish .finalized .all
  | "update_state_to_slot" => return .buildAndPublish (.slot (← j.natField "slot")) .all
  | "latest_state" => return .latestState
  | "scripted_fetcher_state" =>
    return .scriptedFetcherState (← chainConfig (← j.need "beacon_config"))
      (← stateConfig (j.get? "state_config")) (← fetcherScript j)
  | other => throw ("unknown op " ++ other)

/-- Whether a step description runs steps side by side. -/
def isConcurrent (j : Json) : Bool :=
  match j.get? "op" with
  | some (.str "concurrent") => true
  | _ => false

/-- Reads a step run beside others; a nested side-by-side step is refused. -/
def sideStep (j : Json) : SideStep :=
  let action : Except String Action :=
    if isConcurrent j then .error "nested concurrent step" else action j
  match cancel j, j.optNatField "start_ms" with
  | .ok c, .ok start => { action, cancel := c, startMs := start.getD 0 }
  | .error e, _ | _, .error e => { action := .error e, cancel := .never, startMs := 0 }

/-- Reads a step. -/
def step (j : Json) : Except String Step := do
  if isConcurrent j then
    return .concurrent ((← j.listField "steps").map sideStep)
  else
    return .single (← action j) (← cancel j)

end Spec

end ChainWatch
