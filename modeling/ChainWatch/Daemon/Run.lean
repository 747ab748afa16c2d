import ChainWatch.Daemon.Cli
import ChainWatch.Daemon.World
import ChainWatch.Http.Execution

/-!
# A run of the state daemon

The daemon reads its command line (`readArgs`), then, before any request, checks its settings
in this order: the execution address, its fallback, the beacon node address, its fallback, the
accounts, and the batch size (`DaemonSetup.ofArgs`). It then

1. waits, without limit, for a beacon node to be synced;
2. reads the chain configuration from a ready beacon node, which makes the manager;
3. updates the state to the head of the chain at once and then every update interval: both
   services must be synced within the sync timeout, then a snapshot of the accounts is built and
   published. A failed cycle is logged, as a warning when a later one may succeed and as an
   error otherwise, and a cancelled build ends the updates;
4. stops when it is interrupted: before the manager is made, the interrupt kills it; after, it
   logs that it shuts down, cancels the updates, and ends well.

A failure of the command line ends the run with code 2 (code 0 and the help on standard output
for the help), and a failure of the settings or of steps 1 and 2 with code 1 and the error with
its causes. `DaemonRun.stderr` gives the lines written on standard error: the warnings about the
log spec, the records the log filter lets through, and the error.
-/

namespace ChainWatch

/-- The causes of a failed call. -/
def ClientError.causes : ClientError → List String
  | .request _ s | .response _ s => [s]
  | _ => []

/-- The causes of an unusable service. -/
def HealthError.causes : HealthError → List String
  | .transport _ _ s => s.message :: s.causes
  | _ => []

namespace Daemon

/-- The settings of a run, once checked. -/
structure DaemonSetup where
  /-- The addresses of the execution service, in normal form. -/
  execution : Endpoints String
  /-- The addresses of the beacon service, in normal form. -/
  beacon : Endpoints String
  accounts : List Address
  state : StateConfig
  health : HealthConfig
  updateIntervalMs : Nat
  requestTimeoutMs : Nat

/-- Why the settings were refused: the text of the error. -/
def urlFailure (e : UrlError) : String := e.message

/-- Checks the settings, in the order the daemon does. -/
def DaemonSetup.ofArgs (a : DaemonArgs) : Except String DaemonSetup := do
  let url (s : String) : Except String String := (normalizeServiceUrl s).mapError urlFailure
  let optionalUrl : Option String → Except String (Option String)
    | some s => some <$> url s
    | none => pure none
  let execution ← url a.executionAddress
  let executionFallback ← optionalUrl a.fallbackExecutionAddress
  let beacon ← url a.beaconNodeAddress
  let beaconFallback ← optionalUrl a.fallbackBeaconNodeAddress
  let accounts ← (Address.parseList a.accounts).mapError ConfigError.message
  let state ← (StateConfig.new? a.batchSize StateConfig.default.maxConcurrentBatches 0).mapError
    ConfigError.message
  pure { execution := ⟨execution, executionFallback⟩, beacon := ⟨beacon, beaconFallback⟩, accounts, state,
         health := { syncTimeout := a.syncTimeout * 1000 },
         updateIntervalMs := a.updateInterval * 1000, requestTimeoutMs := a.requestTimeout * 1000 }

/-- How a run ended. -/
inductive DaemonEnding where
  /-- The daemon exited with a code. -/
  | exited (code : Nat)
  /-- The daemon was killed by a signal. -/
  | killed (signal : Nat)
  /-- The daemon was still running when the run stopped. -/
  | running
  deriving DecidableEq, Repr

/-- An error that ends the daemon: its text and the texts of its causes, outermost first. -/
structure Fatal where
  message : String
  causes : List String

/-- An error of the manager as a fatal one: configuration and service errors stand for their
cause, a failed call has the call as its cause. -/
def Fatal.ofState : StateError → Fatal
  | .health e => ⟨e.message, e.causes⟩
  | .client c s => ⟨(StateError.client c s).message, s.message :: s.causes⟩
  | e => ⟨e.message, []⟩

/-- The lines of a fatal error: `Error: ` and the text, then its causes, numbered when there are
several. -/
def Fatal.lines (f : Fatal) : List String :=
  ("Error: " ++ f.message) :: match f.causes with
    | [] => []
    | [c] => ["", "Caused by:", "    " ++ c]
    | cs => ["", "Caused by:"] ++ cs.zipIdx.map fun (c, i) => "    " ++ Nat.repr i ++ ": " ++ c

/-- The manager of the daemon over a tracker, for a chain. -/
def manager (t : Tracker DaemonWorld) (setup : DaemonSetup) (chain : ChainConfig) :
    Manager DaemonWorld AccountDetails ExecutionHeader where
  tracker := t
  fetcher := accountFetcher setup.accounts
  chain
  config := setup.state
  latest w := w.latest
  publish s w := { w with latest := some s }
  freshId := DaemonWorld.freshSnapshotId

/-- Reads the chain configuration from a ready beacon node and makes the manager. -/
def connect (t : Tracker DaemonWorld) (setup : DaemonSetup) :
    Fiber DaemonWorld (Except StateError (Manager DaemonWorld AccountDetails ExecutionHeader)) :=
  Fiber.bind t.chainConfig fun
    | .error e => .done (.error e)
    | .ok chain =>
      let record : LogRecord :=
        { level := .info, target := "network_state::state::manager",
          message := "Beacon configuration: genesis at " ++ Nat.repr chain.genesisTime ++ ", " ++
            Nat.repr chain.secondsPerSlot ++ " seconds per slot, " ++ Nat.repr chain.slotsPerEpoch ++
            " slots per epoch" }
      Fiber.bind (Fiber.modify fun w => TrackerWorld.log w record) fun () =>
      .done (.ok (manager t setup chain))

/-- One update: both services synced within the sync timeout, then a snapshot at the head. -/
def update (m : Manager DaemonWorld AccountDetails ExecutionHeader) (tok : CancelToken) :
    Fiber DaemonWorld (Except StateError Unit) :=
  Fiber.bind (m.tracker.requireSynced .execution tok) fun
    | .error e => .done (.error (.health e))
    | .ok () => Fiber.bind (m.tracker.requireSynced .beacon tok) fun
      | .error e => .done (.error (.health e))
      | .ok () => Fiber.bind (m.buildAndPublish .head .all tok) fun
        | .error e => .done (.error e)
        | .ok _ => .done (.ok ())

/-- Logs a failed cycle: a warning when a later cycle may succeed, else an error. -/
def logFailure (e : StateError) : Fiber DaemonWorld Unit :=
  if e.isTransient then DaemonWorld.note .warn ("Skipping update cycle: " ++ e.message)
  else DaemonWorld.note .error ("update cycle failed, this likely requires intervention: " ++ e.message)

/-- Updates at once and then every `periodMs` from the start, until the token is cancelled or a
build is; a cycle that ends late is followed at once by those it held up. -/
def updater (m : Manager DaemonWorld AccountDetails ExecutionHeader) (periodMs : Nat)
    (tok : CancelToken) : Fiber DaemonWorld Unit :=
  Fiber.bind Fiber.now fun start =>
    Fiber.loop Fiber.rounds (fun k =>
      Fiber.bind (Fiber.race tok.cancelled (Fiber.waitUntil (start + k * periodMs))) fun
        | .inl () => .done (.inr ())
        | .inr () => Fiber.bind (update m tok) fun
          | .ok () => .done (.inl (k + 1))
          | .error .cancelled => .done (.inr ())
          | .error e => Fiber.bind (logFailure e) fun () => .done (.inl (k + 1))) 0

/-- How the daemon stops once its settings are checked. -/
inductive Stop where
  /-- It could not start: no beacon node became usable, or the chain configuration failed. -/
  | failed (f : Fatal)
  /-- It was interrupted while serving, and shut down. -/
  | shutDown
  /-- It was interrupted before it served, which kills it. -/
  | interrupted

/-- The daemon once its settings are checked, over `transport`, with block times compared to
`wallClock` (Unix seconds at the start), until the interrupt comes. -/
def serve (setup : DaemonSetup) (transport : Transport DaemonWorld) (wallClock : Nat)
    (interrupt : CancelToken) : Fiber DaemonWorld Stop :=
  let t : Tracker DaemonWorld :=
    { execution := setup.execution.map fun a => ExecutionNode.api ⟨a, setup.requestTimeoutMs⟩ transport,
      beacon := setup.beacon.map fun a => (BeaconNode.atAddress a setup.requestTimeoutMs).api transport,
      config := setup.health, wallClock }
  let startup : Fiber DaemonWorld (Except Fatal (Manager DaemonWorld AccountDetails ExecutionHeader)) :=
    Fiber.bind (DaemonWorld.note .info "Waiting for a Beacon Node to sync") fun () =>
    Fiber.bind (t.waitSynced .beacon .never) fun
      | .error e => .done (.error (Fatal.ofState (.health e)))
      | .ok () => Fiber.bind (connect t setup) fun
        | .error e => .done (.error (Fatal.ofState e))
        | .ok m => .done (.ok m)
  Fiber.bind (Fiber.race interrupt.cancelled startup) fun
    | .inl () => .done .interrupted
    | .inr (.error f) => .done (.failed f)
    | .inr (.ok m) =>
      Fiber.bind (DaemonWorld.note .info "State daemon initialized successfully") fun () =>
      let shutdown := Fiber.bind interrupt.cancelled fun () => DaemonWorld.note .info "Shutting down"
      Fiber.bind (Fiber.both shutdown (updater m setup.updateIntervalMs interrupt)) fun _ =>
        .done .shutDown

/-- A line written on standard error: plain text, or a log record. -/
inductive ErrorLine where
  | text (s : String)
  | record (r : LogRecord)

/-- The text of a line on standard error. -/
def ErrorLine.render : ErrorLine → String
  | .text s => s
  | .record r => r.line

/-- What a run of the daemon wrote and how it ended. -/
structure DaemonRun where
  stdout : String
  stderr : List ErrorLine
  ending : DaemonEnding

/-- How many steps a run of the daemon may take. -/
def runFuel : Nat := Nat.pow 2 24

/-- Runs the daemon with `args` (without the program name), the log spec if one is set, over
`transport`, with block times compared to `wallClock`, until `interrupt`. -/
def run (args : List String) (logSpec : Option String) (transport : Transport DaemonWorld)
    (wallClock : Nat) (interrupt : CancelToken) : DaemonRun :=
  match readArgs args with
  | .error f =>
    if f.isHelp then ⟨f.text, [], .exited 0⟩ else ⟨"", [.text f.text], .exited 2⟩
  | .ok a =>
    let (filter, specWarnings) := match logSpec with
      | some spec => LogFilter.ofSpec spec
      | none => (LogFilter.errorsOnly, [])
    let warnings := specWarnings.map ErrorLine.text
    match DaemonSetup.ofArgs a with
    | .error e => ⟨"", warnings ++ [.text ("Error: " ++ e)], .exited 1⟩
    | .ok setup =>
      let world := DaemonWorld.start setup.execution.hasFallback setup.beacon.hasFallback
      let (w, outcome) := Fiber.run runFuel world (serve setup transport wallClock interrupt)
      let written := (w.records.filter filter.allows).map ErrorLine.record
      match outcome with
      | some (.failed f) => ⟨"", warnings ++ written ++ f.lines.map ErrorLine.text, .exited 1⟩
      | some .shutDown => ⟨"", warnings ++ written, .exited 0⟩
      | some .interrupted => ⟨"", warnings ++ written, .killed 2⟩
      | none => ⟨"", warnings ++ written, .running⟩

end Daemon

end ChainWatch
