import ChainWatch.Daemon.Run
import Std.Time.DateTime.Timestamp

/-!
# The `state-daemon` command

Runs the state daemon with the arguments of the command line. The log filter spec is read from
the environment variable `STATE_DAEMON_LOG`. This build has no network stack, so the daemon runs
over the link on which nothing is reached (`Transport.unreachable`): it checks its command line
and settings, and then finds no beacon node to wait for. The exit code is the daemon's, and
`128 + n` when it was killed by signal `n`.
-/

open ChainWatch

/-- The environment variable that holds the log filter spec. -/
def logSpecVariable : String := "STATE_DAEMON_LOG"

/-- The exit code of a run. -/
def exitCode : Daemon.DaemonEnding → UInt32
  | .exited c => c.toUInt32
  | .killed s => (128 + s).toUInt32
  | .running => 0

def main (args : List String) : IO UInt32 := do
  let logSpec ← IO.getEnv logSpecVariable
  let now ← Std.Time.Timestamp.now
  let r := Daemon.run args logSpec Transport.unreachable now.toSecondsSinceUnixEpoch.val.toNat .never
  IO.print r.stdout
  for line in r.stderr do
    IO.eprintln line.render
  pure (exitCode r.ending)
