import ChainWatch.Daemon.Run
import ChainWatch.Proofs.Chain.AddressText

/-!
# The daemon checks its settings before any request

Once its command line is read, the daemon checks six settings, in this order: the address of the
execution service, its fallback if one is given, the address of the beacon service, its fallback
if one is given, each address of the accounts list, and the batch size. The checks are stated here
on their own, as a list of the texts of their errors (`DaemonArgs.settingChecks`):

* an address is refused when its normal form cannot be made (`normalizeServiceUrl`);
* the accounts are refused with the error of the first piece of the list, split on commas and
  trimmed, that is no address (`addressPieces`, `Address.parse`);
* a batch size of zero is refused.

`DaemonSetup.error?_ofArgs` shows that the settings are refused exactly with the error of the
first check that fails (`DaemonArgs.firstRefusal`). Each step of the settings reader is matched
with its check by one lemma, and `Except.error?_bind` carries the error of a chain of steps,
each of which runs only when the ones before it passed.

A request leaves the daemon only through its transport. `settings_checked_before_any_request`
shows that a refused run is the same over every transport, and every clock and interrupt: it
writes the warnings of the log spec and the error, and exits with code 1, so no service is asked
anything. When every check passes, the settings are taken.
-/

namespace ChainWatch

namespace Daemon

/-! ### The checks of the settings -/

/-- The error of a service address whose normal form cannot be made. -/
def serviceUrlRefusal (address : String) : Option String :=
  (Except.error? (normalizeServiceUrl address)).map UrlError.message

/-- The error of the first piece of an accounts list that is no address. -/
def accountsRefusal (accounts : String) : Option String :=
  ((addressPieces accounts).findSome? fun piece => Except.error? (Address.parse piece)).map
    ConfigError.message

/-- The error of a batch size of zero. -/
def batchSizeRefusal (batchSize : Nat) : Option String :=
  if batchSize = 0 then some (ConfigError.zeroValue "batch_size").message else none

/-- The checks of the settings, in the order they are made: each gives its error, or none when
it passes. An absent fallback address passes. -/
def DaemonArgs.settingChecks (a : DaemonArgs) : List (Option String) :=
  [serviceUrlRefusal a.executionAddress, a.fallbackExecutionAddress.bind serviceUrlRefusal,
   serviceUrlRefusal a.beaconNodeAddress, a.fallbackBeaconNodeAddress.bind serviceUrlRefusal,
   accountsRefusal a.accounts, batchSizeRefusal a.batchSize]

/-- The error of the first check of the settings that fails. -/
def DaemonArgs.firstRefusal (a : DaemonArgs) : Option String := a.settingChecks.findSome? id

/-! ### Each step of the settings reader is its check -/

theorem DaemonSetup.error?_url (address : String) :
    Except.error? ((normalizeServiceUrl address).mapError urlFailure) = serviceUrlRefusal address := by
  rw [Except.error?_mapError]
  rfl

theorem DaemonSetup.error?_accounts (accounts : String) :
    Except.error? ((Address.parseList accounts).mapError ConfigError.message) =
      accountsRefusal accounts := by
  rw [Except.error?_mapError, Address.parseList_eq_mapM, Except.error?_mapM]
  rfl

theorem DaemonSetup.error?_state (batchSize : Nat) :
    Except.error? ((StateConfig.new? batchSize StateConfig.default.maxConcurrentBatches 0).mapError
      ConfigError.message) = batchSizeRefusal batchSize := by
  rw [Except.error?_mapError]
  by_cases hb : batchSize = 0
  · simp [StateConfig.new?, batchSizeRefusal, hb, Except.error?]
  · -- the default concurrency is positive, so only the batch size can be refused
    have hm : StateConfig.default.maxConcurrentBatches ≠ 0 := by decide
    simp [StateConfig.new?, batchSizeRefusal, hb, hm, Except.error?]

/-- **The settings are refused with the error of their first failing check.** -/
theorem DaemonSetup.error?_ofArgs (a : DaemonArgs) : Except.error? (DaemonSetup.ofArgs a) = a.firstRefusal := by
  obtain ⟨_, fallbackExecution, _, fallbackBeacon, _, _, _, _, _, _⟩ := a
  -- first the chain of steps becomes the chain of their errors, each taken when the ones
  -- before it passed; then each error is that of its check
  cases fallbackExecution <;> cases fallbackBeacon <;>
    simp only [DaemonSetup.ofArgs, bind_map_left, pure_bind, Except.error?_bind,
      Except.error?_or_bind_const, Except.error?_pure, Option.or_none] <;>
    simp [DaemonSetup.error?_url, DaemonSetup.error?_accounts, DaemonSetup.error?_state,
      DaemonArgs.firstRefusal, DaemonArgs.settingChecks, findSome?_cons_eq_or]

/-! ### A refused run sends nothing -/

/-- The warnings about a log filter spec, written before anything else. -/
def logSpecWarnings : Option String → List String
  | some spec => (LogFilter.ofSpec spec).2
  | none => []

/-- The run of a daemon whose settings are refused with `msg`: the warnings about the log spec,
then the error, and exit code 1. -/
def refusedRun (logSpec : Option String) (msg : String) : DaemonRun :=
  ⟨"", (logSpecWarnings logSpec).map ErrorLine.text ++ [.text ("Error: " ++ msg)], .exited 1⟩

theorem run_of_ofArgs_error {args : List String} {a : DaemonArgs} (hargs : readArgs args = .ok a)
    {msg : String} (hmsg : DaemonSetup.ofArgs a = .error msg) (logSpec : Option String)
    (transport : Transport DaemonWorld) (wallClock : Nat) (interrupt : CancelToken) :
    run args logSpec transport wallClock interrupt = refusedRun logSpec msg := by
  cases logSpec <;> simp only [run, hargs, hmsg] <;> rfl

/-- **The daemon checks its settings before any request.** For every command line the parser
accepts: when a check of the settings fails, the run ends with the error of the first failing
check, in the order execution address, its fallback, beacon node address, its fallback,
accounts, batch size, and with exit code 1, whatever the transport, clock and interrupt, so no
request is made; when every check passes, the settings are taken. -/
theorem settings_checked_before_any_request {args : List String} {a : DaemonArgs}
    (hargs : readArgs args = .ok a) (logSpec : Option String) :
    (∀ msg, a.firstRefusal = some msg → ∀ transport wallClock interrupt,
      run args logSpec transport wallClock interrupt = refusedRun logSpec msg) ∧
    (a.firstRefusal = none → ∃ setup, DaemonSetup.ofArgs a = .ok setup) := by
  have hsettings := DaemonSetup.error?_ofArgs a
  refine ⟨fun msg hmsg transport wallClock interrupt => ?_, fun hnone => ?_⟩
  · have hrefused : DaemonSetup.ofArgs a = .error msg := Except.error?_eq_some_iff.mp (hsettings.trans hmsg)
    exact run_of_ofArgs_error hargs hrefused logSpec transport wallClock interrupt
  · exact Except.error?_eq_none_iff.mp (hsettings.trans hnone)

/-- A command line whose execution address has no host is refused with `empty host`, before
the beacon address and the zero batch size are looked at. -/
theorem unhosted_execution_address_refused :
    readArgs ["--execution-address", "http://", "--beacon-node-address", "localhost:5052",
        "--batch-size", "0"] = .ok ⟨"http://", none, "localhost:5052", none, "", 60, 30, 10, 16, 0⟩ ∧
      run ["--execution-address", "http://", "--beacon-node-address", "localhost:5052",
        "--batch-size", "0"] none Transport.unreachable 0 .never = refusedRun none "empty host" :=
  have hargs : readArgs ["--execution-address", "http://", "--beacon-node-address", "localhost:5052",
      "--batch-size", "0"] = .ok ⟨"http://", none, "localhost:5052", none, "", 60, 30, 10, 16, 0⟩ := by
    with_unfolding_all rfl
  ⟨hargs, (settings_checked_before_any_request hargs none).1 "empty host" (by decide)
    Transport.unreachable 0 .never⟩

end Daemon

end ChainWatch
