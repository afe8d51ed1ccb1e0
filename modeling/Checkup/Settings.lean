import Checkup.Fault
import Checkup.Number.Reading

/-!
# Settings

Settings are read from the environment. The name of a variable is a common beginning and the name of
the field, in any case; of several variables that differ in case the last one counts. A field
without a variable has its default. All fields that cannot be read are reported together.
-/

namespace Checkup

def settingText? (environment : List (String × String)) (name : String) : Option String :=
  (environment.reverse.find? fun entry => Text.lower entry.1 == name).map (·.2)

def yesTexts : List String := ["true", "t", "yes", "y", "on", "1"]

def noTexts : List String := ["false", "f", "no", "n", "off", "0"]

/-- Reads a truth value in any case, without trimming. -/
def readTruth? (s : String) : Option Bool :=
  let lowered := String.ofList (s.toList.map Char.toLower)
  if yesTexts.contains lowered then some true
  else if noTexts.contains lowered then some false
  else none

/-- Reads a setting, or gives its default. -/
def readSetting (environment : List (String × String)) (start field : String)
    (expected : SettingType) (read? : String → Option α) (default : α) :
    Except SettingProblem α :=
  match settingText? environment (start ++ field) with
  | none => .ok default
  | some s => match read? s with
    | some value => .ok value
    | none => .error ⟨field, expected⟩

def problem? : Except SettingProblem α → Option SettingProblem
  | .ok _ => none
  | .error problem => some problem

def readRealSetting? (s : String) : Option Float :=
  Number.readReal? Text.asciiDigit? s.toList

def readWholeSetting? (s : String) : Option Int :=
  Number.readIntSetting? s.toList

structure EngineSettings where
  retryWindowSeconds : Float := 5
  timeoutSeconds : Float := 30
  logLevel : String := "INFO"
  logJson : Bool := true
deriving Repr

def EngineSettings.read (environment : List (String × String)) : Except Fault EngineSettings :=
  let start := "healthcheck_"
  let defaults : EngineSettings := {}
  let retryWindow := readSetting environment start "retry_window_seconds" .real readRealSetting?
    defaults.retryWindowSeconds
  let timeout := readSetting environment start "timeout_seconds" .real readRealSetting?
    defaults.timeoutSeconds
  let json := readSetting environment start "log_json" .truth readTruth? defaults.logJson
  match retryWindow, timeout, json with
  | .ok retryWindowSeconds, .ok timeoutSeconds, .ok logJson =>
    let logLevel := (settingText? environment (start ++ "log_level")).getD defaults.logLevel
    .ok { retryWindowSeconds, timeoutSeconds, logLevel, logJson }
  | _, _, _ => .error (.settings "EngineSettings"
      ([problem? retryWindow, problem? timeout, problem? json].filterMap id))

structure ProbeSettings where
  slowThresholdMillis : Float := 2000
  leastFreeBytes : Int := 1073741824
  leastVersion : String := "3.11"
deriving Repr

def ProbeSettings.read (environment : List (String × String)) : Except Fault ProbeSettings :=
  let start := "healthcheck_probe_"
  let defaults : ProbeSettings := {}
  let slowThreshold := readSetting environment start "http_slow_threshold_ms" .real
    readRealSetting? defaults.slowThresholdMillis
  let freeBytes := readSetting environment start "min_free_disk_bytes" .whole
    readWholeSetting? defaults.leastFreeBytes
  match slowThreshold, freeBytes with
  | .ok slowThresholdMillis, .ok leastFreeBytes =>
    let leastVersion :=
      (settingText? environment (start ++ "min_python_version")).getD defaults.leastVersion
    .ok { slowThresholdMillis, leastFreeBytes, leastVersion }
  | _, _ => .error (.settings "ProbeSettings"
      ([problem? slowThreshold, problem? freeBytes].filterMap id))

end Checkup
