import ChainWatch.Wire.QuotedInt

/-!
# The command line of the state daemon

The daemon takes named options only, each with one value, and a help flag (`optionTable`).
`readArgs` reads the arguments the way the usual derive-style parser does:

* `--name value`, `--name=value`, `-x value`, `-xvalue` and `-x=value` give an option its
  value; a value is taken when the option is next resolved, which is when another option
  comes or the arguments end, and that is when it is checked: an option given twice, a missing
  value and a value its rule refuses are reported then;
* `-h` and `--help` ask for the help text as soon as they come, once the option before them is
  resolved;
* an argument that is no option, or an option that does not exist, ends the reading at once;
  an option that is close to an existing long name gets that name as a tip;
* after `--` every argument is taken as a positional one, and there are none;
* at the end, the required addresses must have been given.

`CliFailure.text` writes each failure the way the parser prints it, with the usage line where
the parser shows one and the pointer to `--help`; `helpText` is the help.
-/

namespace ChainWatch

namespace Daemon

/-- The options of the daemon, in the order the help lists them. -/
inductive CliOption where
  | executionAddress
  | fallbackExecutionAddress
  | beaconNodeAddress
  | fallbackBeaconNodeAddress
  | accounts
  | updateInterval
  | reportInterval
  | requestTimeout
  | syncTimeout
  | batchSize
  | help
  deriving DecidableEq, Repr

/-- How the value of an option is checked. -/
inductive ValueRule where
  /-- Any text. -/
  | text
  /-- A 64-bit unsigned integer. -/
  | count
  /-- A 64-bit unsigned integer that is not zero. -/
  | positiveCount
  deriving DecidableEq

/-- What the parser knows of an option. -/
structure OptionSpec where
  option : CliOption
  short : Option Char
  long : String
  /-- The name of the value, none for the help flag. -/
  valueName : Option String
  help : String
  default : Option String
  required : Bool
  rule : ValueRule

/-- The options, in the order of their declaration. -/
def optionTable : List OptionSpec :=
  [ ⟨.executionAddress, some 'e', "execution-address", some "EXECUTION_ADDRESS",
      "The address of the primary execution client JSON-RPC endpoint", none, true, .text⟩,
    ⟨.fallbackExecutionAddress, none, "fallback-execution-address", some "FALLBACK_EXECUTION_ADDRESS",
      "The address of the fallback execution client JSON-RPC endpoint", none, false, .text⟩,
    ⟨.beaconNodeAddress, some 'b', "beacon-node-address", some "BEACON_NODE_ADDRESS",
      "The address of the primary Beacon Node API", none, true, .text⟩,
    ⟨.fallbackBeaconNodeAddress, none, "fallback-beacon-node-address", some "FALLBACK_BEACON_NODE_ADDRESS",
      "The address of the fallback Beacon Node API", none, false, .text⟩,
    ⟨.accounts, some 'a', "accounts", some "ACCOUNTS",
      "Comma separated addresses of the accounts to track", some "\"\"", false, .text⟩,
    ⟨.updateInterval, none, "update-interval", some "UPDATE_INTERVAL",
      "Seconds between two updates of the network state", some "60", false, .positiveCount⟩,
    ⟨.reportInterval, none, "report-interval", some "REPORT_INTERVAL",
      "Seconds between two reports on the latest network state", some "30", false, .positiveCount⟩,
    ⟨.requestTimeout, none, "request-timeout", some "REQUEST_TIMEOUT",
      "Seconds after which a request to a backing service is abandoned", some "10", false, .positiveCount⟩,
    ⟨.syncTimeout, none, "sync-timeout", some "SYNC_TIMEOUT",
      "Seconds to wait for the clients to sync before skipping an update. Zero waits indefinitely",
      some "16", false, .count⟩,
    ⟨.batchSize, none, "batch-size", some "BATCH_SIZE",
      "Maximum number of accounts read per round trip", some "100", false, .count⟩,
    ⟨.help, some 'h', "help", none, "Print help", none, false, .text⟩ ]

/-- The spec of an option. -/
def CliOption.spec (o : CliOption) : OptionSpec :=
  (optionTable.find? (·.option = o)).getD ⟨.help, some 'h', "help", none, "Print help", none, false, .text⟩

/-- An option as the parser names it: its long name, and its value name if it takes one. -/
def CliOption.display (o : CliOption) : String :=
  let s := o.spec
  "--" ++ s.long ++ (s.valueName.map (" <" ++ · ++ ">")).getD ""

/-- The program name. -/
def programName : String := "state-daemon"

/-- The options that must be given. -/
def requiredOptions : List CliOption := (optionTable.filter (·.required)).map (·.option)

/-! ### Usage and help -/

/-- The usage line for a command line that used nothing in particular. -/
def fullUsage : String :=
  "Usage: " ++ programName ++ " [OPTIONS] " ++ " ".intercalate (requiredOptions.map CliOption.display)

/-- The usage line that names the required options and then those `used`, each once. -/
def usageWith (used : List CliOption) : String :=
  let named := (requiredOptions ++ used).foldl (fun acc o => if acc.contains o then acc else acc ++ [o]) []
  "Usage: " ++ programName ++ " " ++ " ".intercalate (named.map CliOption.display)

/-- The usage line of an error: the full one when nothing was used, else the one naming what was. -/
def usageFor (used : List CliOption) : String := if used.isEmpty then fullUsage else usageWith used

/-- The help entry of an option. -/
def OptionSpec.helpEntry (s : OptionSpec) : String :=
  "  " ++ (match s.short with | some c => "-" ++ String.singleton c ++ ", " | none => "    ") ++ "--" ++ s.long ++
    (s.valueName.map (" <" ++ · ++ ">")).getD "" ++ "\n          " ++ s.help ++
    (s.default.map (" [default: " ++ · ++ "]")).getD ""

/-- The help text. -/
def helpText : String :=
  "The CLI for the state daemon\n\n" ++ fullUsage ++ "\n\nOptions:\n" ++
    "\n".intercalate (optionTable.map OptionSpec.helpEntry) ++ "\n"

/-! ### Failures -/

/-- Why the command line was not taken. -/
inductive CliFailure where
  /-- The help was asked for. -/
  | help
  /-- Required options are missing; `used` is what the usage line names. -/
  | missingRequired (missing used : List CliOption)
  /-- A value was refused by the rule of its option. -/
  | invalidValue (option : CliOption) (value reason : String)
  /-- An option got no value. -/
  | emptyValue (option : CliOption)
  /-- An option was given twice. -/
  | givenTwice (option : CliOption)
  /-- An argument that is not an option, with a tip of a similar option, if any. -/
  | unknown (arg : String) (tip : Option String) (used : List CliOption)
  /-- A value given to the help flag. -/
  | unneededValue (value : String) (option : CliOption) (used : List CliOption)

/-- The text printed for a failure, without its final line break. -/
def CliFailure.text : CliFailure → String
  | .help => helpText
  | .missingRequired missing used =>
    "error: the following required arguments were not provided:" ++
      String.join (missing.map fun o => "\n  " ++ o.display) ++ "\n\n" ++ usageWith used ++ tryHelp
  | .invalidValue o v reason => "error: invalid value '" ++ v ++ "' for '" ++ o.display ++ "': " ++ reason ++ tryHelp
  | .emptyValue o => "error: a value is required for '" ++ o.display ++ "' but none was supplied" ++ tryHelp
  | .givenTwice o => "error: the argument '" ++ o.display ++ "' cannot be used multiple times\n\n" ++
      fullUsage ++ tryHelp
  | .unknown arg tip used => "error: unexpected argument '" ++ arg ++ "' found" ++
      (tip.map fun t => "\n\n  tip: a similar argument exists: '" ++ t ++ "'").getD "" ++ "\n\n" ++
      usageFor used ++ tryHelp
  | .unneededValue v o used => "error: unexpected value '" ++ v ++ "' for '" ++ o.display ++
      "' found; no more were expected\n\n" ++ usageFor used ++ tryHelp
where
  tryHelp : String := "\n\nFor more information, try '--help'."

/-- Whether a failure is the help, which is printed on standard output and ends well. -/
def CliFailure.isHelp : CliFailure → Bool
  | .help => true
  | _ => false

/-! ### Similar names -/

/-- Marks the first unmarked `c` of `bs` within `[lo, hi)`, if any. -/
def markMatch (c : Char) (lo hi : Nat) : List (Char × Bool) → Nat → Option (List (Char × Bool))
  | [], _ => none
  | (d, used) :: rest, j =>
    if j ≥ hi then none
    else if lo ≤ j ∧ d = c ∧ !used then some ((d, true) :: rest)
    else ((markMatch c lo hi rest (j + 1)).map ((d, used) :: ·))

/-- The Jaro similarity of two texts in binary64 arithmetic: with `m` characters matching within
the search range and `t` half-transpositions, `(m / |a| + m / |b| + (m - t) / m) / 3`, each
operation rounded to nearest in that order. Two empty texts are alike (one), and texts with
nothing in common have zero. -/
def jaro (a b : List Char) : Binary64 :=
  if a.isEmpty && b.isEmpty then Binary64.one
  else if a.isEmpty || b.isEmpty then Binary64.zero
  else
    let range := max a.length b.length / 2 - 1
    let (aFlags, bMarks, m) := (a.zipIdx.foldl (fun (acc : List Bool × List (Char × Bool) × Nat) (c, i) =>
        let (flags, marks, m) := acc
        match markMatch c (i - range) (min b.length (i + range + 1)) marks 0 with
        | some marks' => (flags ++ [true], marks', m + 1)
        | none => (flags ++ [false], marks, m)) ([], b.map (·, false), 0))
    if m = 0 then Binary64.zero
    else
      let aMatched := (a.zip aFlags).filterMap fun (c, f) => if f then some c else none
      let bMatched := bMarks.filterMap fun (c, f) => if f then some c else none
      let t := ((aMatched.zip bMatched).filter fun (x, y) => x != y).length / 2
      let matched := Binary64.ofNat m
      (((matched.div (Binary64.ofNat a.length)).add (matched.div (Binary64.ofNat b.length))).add
        ((Binary64.ofNat (m - t)).div matched)).div (Binary64.ofNat 3)

/-- The similarity a name must pass to be suggested: the binary64 number nearest to 0.7. -/
def similarityThreshold : Binary64 := Binary64.ofRatio false 7 10

/-- The long name most similar to `name`, if its similarity is over `similarityThreshold`; the
later name wins a tie. -/
def similarLong (name : String) : Option String :=
  let scored := optionTable.map fun s => (jaro name.toList s.long.toList, s.long)
  let close := scored.filter fun (score, _) => Binary64.lt similarityThreshold score
  (close.foldl (fun best c => match best with
    | some b => if Binary64.lt c.1 b.1 then some b else some c
    | none => some c) none).map (·.2)

/-! ### Reading the arguments -/

/-- The options given so far, in order, and the option waiting for its value, with the value
if it came. -/
structure Given where
  values : List (CliOption × String)
  pending : Option (CliOption × Option String)

namespace Given

/-- Whether an option was given. -/
def has (g : Given) (o : CliOption) : Bool := g.values.any (·.1 = o)

/-- The options given that are not required, in order. -/
def usedOptional (g : Given) : List CliOption :=
  (g.values.map (·.1)).filter fun o => !requiredOptions.contains o

/-- Checks a value against the rule of its option. A value out of range is shown as the number
it reads as, a value that does not read as it was given. -/
def check (o : CliOption) (v : String) : Except CliFailure Unit :=
  match o.spec.rule with
  | .text => .ok ()
  | .count => match readU64 v with
    | .ok _ => .ok ()
    | .error e => .error (.invalidValue o v e.message)
  | .positiveCount => match readU64 v with
    | .ok 0 => .error (.invalidValue o "0" "0 is not in 1..18446744073709551615")
    | .ok _ => .ok ()
    | .error e => .error (.invalidValue o v e.message)

/-- Takes an option with its value, if it came. -/
def take (g : Given) (o : CliOption) : Option String → Except CliFailure Given
  | none => .error (.emptyValue o)
  | some v =>
    if g.has o then .error (.givenTwice o)
    else do
      check o v
      pure { g with values := g.values ++ [(o, v)] }

/-- Takes the pending option, if any. -/
def resolve (g : Given) : Except CliFailure Given :=
  match g.pending with
  | none => .ok g
  | some (o, v) => { g with pending := none }.take o v

/-- What is known of the options when an unknown argument stops the reading: the pending option
is taken if that works; a refused value still counts as given, a repeated option counts as not
given at all, and an option without a value is dropped. -/
def settle (g : Given) : Given :=
  let rest := { g with pending := none }
  match g.resolve with
  | .ok g' => g'
  | .error (.invalidValue o v _) => { rest with values := rest.values ++ [(o, v)] }
  | .error (.givenTwice o) => { rest with values := rest.values.filter (·.1 != o) }
  | .error _ => rest

/-- Makes `o` the option waiting for its value, once the pending one is taken. -/
def await (g : Given) (o : CliOption) : Except CliFailure Given := do
  let g ← g.resolve
  pure { g with pending := some (o, none) }

/-- Gives `o` the value `v` at once, once the pending one is taken. -/
def attach (g : Given) (o : CliOption) (v : String) : Except CliFailure Given := do
  let g ← g.resolve
  g.take o (some v)

/-- The help, once the pending option is taken. -/
def askHelp (g : Given) : Except CliFailure Given := do
  let _ ← g.resolve
  throw .help

end Given

/-- The spec of a long name. -/
def findLong (name : String) : Option OptionSpec := optionTable.find? (·.long = name)

/-- The spec of a short name. -/
def findShort (c : Char) : Option OptionSpec := optionTable.find? (·.short = some c)

/-- Reads a long option `name` with the value after `=`, if any. -/
def readLong (g : Given) (name : String) (attached : Option String) : Except CliFailure Given :=
  match findLong name with
  | some s =>
    if s.option = .help then
      match attached with
      | some v => .error (.unneededValue v .help (g.usedOptional ++ [.help]))
      | none => g.askHelp
    else match attached with
      | some v => g.attach s.option v
      | none => g.await s.option
  | none =>
    let g := g.settle
    let tip := similarLong name
    let used := g.usedOptional ++
      (match tip.bind findLong with
        | some s => if (g.has s.option || requiredOptions.contains s.option) then [] else [s.option]
        | none => [])
    .error (.unknown ("--" ++ name) (tip.map ("--" ++ ·)) used)

/-- Reads a cluster of short options: the first takes the rest as its value. -/
def readShort (g : Given) : List Char → Except CliFailure Given
  | [] => .ok g
  | c :: rest =>
    match findShort c with
    | none => .error (.unknown ("-" ++ String.singleton c) none [])
    | some s =>
      if s.option = .help then g.askHelp
      else
        let value := match rest with
          | '=' :: v => some (String.ofList v)
          | [] => none
          | v => some (String.ofList v)
        match value with
        | some v => g.attach s.option v
        | none => g.await s.option

/-- Reads the arguments in order; `escaped` once `--` was read. -/
def readTokens (g : Given) (escaped : Bool) : List String → Except CliFailure Given
  | [] => g.resolve
  | arg :: rest =>
    let cs := arg.toList
    let positional : Except CliFailure Given :=
      match g.pending with
      | some (o, none) => if escaped then .error (.unknown arg none []) else
          readTokens { g with pending := some (o, some arg) } escaped rest
      | _ => .error (.unknown arg none [])
    if escaped then positional
    else match cs with
      | ['-', '-'] => readTokens g true rest
      | '-' :: '-' :: body =>
        let name := String.ofList (body.takeWhile (· != '='))
        let attached := match body.dropWhile (· != '=') with
          | _ :: v => some (String.ofList v)
          | [] => none
        match readLong g name attached with
        | .ok g => readTokens g escaped rest
        | .error e => .error e
      | '-' :: short@(_ :: _) =>
        match readShort g short with
        | .ok g => readTokens g escaped rest
        | .error e => .error e
      | _ => positional

/-- What the daemon was asked to do. -/
structure DaemonArgs where
  executionAddress : String
  fallbackExecutionAddress : Option String
  beaconNodeAddress : String
  fallbackBeaconNodeAddress : Option String
  accounts : String
  updateInterval : Nat
  reportInterval : Nat
  requestTimeout : Nat
  syncTimeout : Nat
  batchSize : Nat

/-- Reads the arguments of the daemon, without the program name. -/
def readArgs (args : List String) : Except CliFailure DaemonArgs := do
  let g ← readTokens { values := [], pending := none } false args
  let missing := requiredOptions.filter fun o => !g.has o
  if !missing.isEmpty then
    throw (.missingRequired missing ((g.values.map (·.1)) ++ missing))
  let text (o : CliOption) : Option String := (g.values.find? (·.1 = o)).map (·.2)
  let number (o : CliOption) : Nat :=
    match text o with
    | some v => (readU64 v).toOption.getD 0
    | none => (((o.spec.default.map readU64).map Except.toOption).join).getD 0
  pure { executionAddress := (text .executionAddress).getD ""
         fallbackExecutionAddress := text .fallbackExecutionAddress
         beaconNodeAddress := (text .beaconNodeAddress).getD ""
         fallbackBeaconNodeAddress := text .fallbackBeaconNodeAddress
         accounts := (text .accounts).getD ""
         updateInterval := number .updateInterval
         reportInterval := number .reportInterval
         requestTimeout := number .requestTimeout
         syncTimeout := number .syncTimeout
         batchSize := number .batchSize }

end Daemon

end ChainWatch
