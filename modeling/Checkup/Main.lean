import Checkup.Command.Run

/-!
# The program

Runs a command line with the environment of the process. The machine has no services to ask: hosts,
addresses and disks answer with their default faults.
-/

namespace Checkup.Command

/-- The variables of the environment that settings are read from. -/
def settingVariables : List String :=
  ["HEALTHCHECK_RETRY_WINDOW_SECONDS", "HEALTHCHECK_TIMEOUT_SECONDS", "HEALTHCHECK_LOG_LEVEL",
    "HEALTHCHECK_LOG_JSON", "HEALTHCHECK_PROBE_HTTP_SLOW_THRESHOLD_MS",
    "HEALTHCHECK_PROBE_MIN_FREE_DISK_BYTES", "HEALTHCHECK_PROBE_MIN_PYTHON_VERSION"]

/-- The variables that are set, with their texts. -/
def processEnvironment : IO (List (String × String)) :=
  settingVariables.filterMapM fun name => do
    return (← IO.getEnv name).map fun text => (name, text)

def writeLine (line : Log.Line) : IO Unit :=
  match line.shown with
  | .text s => IO.eprintln s
  | value => IO.eprintln (Json.write none value)

/-- Runs a command line and writes its output, its log and its complaints. -/
def perform (args : List String) : IO UInt32 := do
  let session : Session := { host := { environment := ← processEnvironment } }
  let (ending, after) := run [] args session
  after.desk.console.reverse.forM writeLine
  IO.print ending.output
  ending.complaint.toList.forM IO.eprint
  ending.fault.toList.forM fun fault => IO.eprintln (fault.kind ++ ": " ++ fault.message)
  return ending.code.toNat.toUInt32

end Checkup.Command

def main (args : List String) : IO UInt32 :=
  Checkup.Command.perform args
