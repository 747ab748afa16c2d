import ChainWatch.Regex.Match

/-!
# Log records and which of them are written

A `LogRecord` has a level, a target (the part of the program that wrote it) and a message. Which
records are written is set by a filter spec (`LogFilter.ofSpec`), a comma-separated list of
directives, with an optional `/text` after it:

* `level` sets the level of every target, `target` lets every record of a target through, and
  `target=level` sets the level of a target; the names of the levels are `off`, `error`, `warn`,
  `info`, `debug` and `trace`, in any case;
* a later directive for the same target replaces an earlier one;
* a record is written when the directive with the longest target that begins its own target
  allows its level, and, with a `/pattern`, when the regular expression matches somewhere in its
  message; a pattern that does not compile is skipped with a warning that shows why;
* without any directive, errors alone are written.

Directives that cannot be read are skipped, each with a warning that is written before anything
else (`LogFilter.ofSpec` gives them).
-/

namespace ChainWatch

/-- How serious a log record is, the most serious first. -/
inductive LogLevel where
  | error
  | warn
  | info
  | debug
  | trace
  deriving DecidableEq, Repr

namespace LogLevel

/-- The rank of a level: 1 for errors up to 5 for traces. A filter lets through the ranks up to
its own, and rank 0 lets nothing through. -/
def rank : LogLevel → Nat
  | error => 1
  | warn => 2
  | info => 3
  | debug => 4
  | trace => 5

/-- The label of a level in a written record, five characters wide. -/
def label : LogLevel → String
  | error => "ERROR"
  | warn => "WARN "
  | info => "INFO "
  | debug => "DEBUG"
  | trace => "TRACE"

end LogLevel

/-- A log record. -/
structure LogRecord where
  level : LogLevel
  target : String
  message : String
  deriving DecidableEq, Repr

/-- The line of a written record: `[LEVEL target] message`. -/
def LogRecord.line (r : LogRecord) : String :=
  "[" ++ r.level.label ++ " " ++ r.target ++ "] " ++ r.message

/-- The rank named by a level name in any case, `off` being 0. -/
def levelRank? (name : String) : Option Nat :=
  (["off", "error", "warn", "info", "debug", "trace"].findIdx? (· = name.toLower))

/-- A directive: the highest rank written for a target, or for every target. -/
structure LogDirective where
  target : Option String
  rank : Nat
  deriving DecidableEq, Repr

/-- The length of a directive's target in bytes, zero for every target. -/
def LogDirective.reach (d : LogDirective) : Nat := (d.target.map String.utf8ByteSize).getD 0

/-- Which records are written. -/
structure LogFilter where
  /-- The directives, in the order they were given. -/
  directives : List LogDirective
  /-- A pattern that a written message must match somewhere. -/
  messagePattern : Option Regex.Matcher

namespace LogFilter

/-- Adds a directive, replacing the one for the same target. -/
def insert (ds : List LogDirective) (d : LogDirective) : List LogDirective :=
  if ds.any (·.target = d.target) then ds.map fun e => if e.target = d.target then d else e
  else ds ++ [d]

/-- A text without the white space at either end. -/
def trimSpace (s : String) : String :=
  let trimmed := (s.toList.dropWhile (Regex.isWhiteSpace ·.toNat)).reverse.dropWhile (Regex.isWhiteSpace ·.toNat)
  String.ofList trimmed.reverse

/-- Reads one directive, already trimmed and not empty. -/
def readDirective (s : String) : Except String LogDirective :=
  match s.splitOn "=" with
  | [name] => match levelRank? name with
    | some r => .ok ⟨none, r⟩
    | none => .ok ⟨some name, 5⟩
  | [name, level] =>
    let level := trimSpace level
    if level.isEmpty then .ok ⟨some name, 5⟩
    else match levelRank? level with
      | some r => .ok ⟨some name, r⟩
      | none => .error ("invalid logging spec '" ++ level ++ "'")
  | _ => .error ("invalid logging spec '" ++ s ++ "'")

/-- The filter a spec sets, and the warnings about the parts of it that were skipped. -/
def ofSpec (spec : String) : LogFilter × List String :=
  match spec.splitOn "/" with
  | [mods] => readMods mods none
  | [mods, pattern] => readMods mods (some pattern)
  | _ => (⟨[], none⟩, ["warning: invalid logging spec '" ++ spec ++ "' (too many '/'s), ignoring it"])
where
  readMods (mods : String) (pattern : Option String) : LogFilter × List String :=
    let parts := (mods.splitOn ",").map trimSpace |>.filter (!·.isEmpty)
    let (ds, warnings) := parts.foldl (fun (acc : List LogDirective × List String) s =>
      match readDirective s with
      | .ok d => (insert acc.1 d, acc.2)
      | .error e => (acc.1, acc.2 ++ ["warning: " ++ e ++ ", ignoring it"])) ([], [])
    match pattern.map Regex.Matcher.compile with
    | some (.ok m) => (⟨ds, some m⟩, warnings)
    | some (.error why) =>
      (⟨ds, none⟩, warnings ++ ["warning: invalid regex filter - " ++ why ++ ", ignoring it"])
    | none => (⟨ds, none⟩, warnings)

/-- The filter when no spec is given: errors alone. -/
def errorsOnly : LogFilter := ⟨[], none⟩

/-- The directives in effect: errors alone for every target when none was given. -/
def effective (f : LogFilter) : List LogDirective :=
  if f.directives.isEmpty then [⟨none, 1⟩] else f.directives

/-- The directive that rules a target: of those whose target begins it, the one with the longest
target, the later of two as long. -/
def ruling (f : LogFilter) (target : String) : Option LogDirective :=
  f.effective.foldl (fun best d =>
    if d.target.all (target.startsWith ·) then
      match best with
      | some b => if b.reach ≤ d.reach then some d else some b
      | none => some d
    else best) none

/-- Whether a record is written. -/
def allows (f : LogFilter) (r : LogRecord) : Bool :=
  (match f.ruling r.target with
    | some d => r.level.rank ≤ d.rank
    | none => false) &&
  (match f.messagePattern with
    | some m => m.isMatch r.message
    | none => true)

end LogFilter

end ChainWatch
