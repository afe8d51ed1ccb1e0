import Checkup.Settings
import Checkup.Time.Duration

/-!
# Configurations

A configuration holds how long an attempt of a check may take and how long the engine waits before
it tries a check again. Attempts need some time; the wait may be empty but not negative.
-/

namespace Checkup

structure Configuration where
  /-- The time between two attempts of a check. -/
  retryWindow : Duration
  /-- The time that one attempt may take. -/
  timeout : Duration
deriving DecidableEq, Repr

namespace Configuration

/-- Why a configuration cannot be used. The wait is looked at before the timeout. -/
def problem? (configuration : Configuration) : Option Fault :=
  if configuration.retryWindow.micros < 0 then
    some (.unusable "retry_window"
      ("must not be negative, got " ++ configuration.retryWindow.toText))
  else if configuration.timeout.micros ≤ 0 then
    some (.unusable "timeout" ("must be positive, got " ++ configuration.timeout.toText))
  else none

def validate (configuration : Configuration) : Except Fault Configuration :=
  match configuration.problem? with
  | some fault => .error fault
  | none => .ok configuration

def ofSetting (seconds : Float) : Except Fault Duration :=
  (Duration.ofSeconds (.real seconds)).mapError Fault.ofTime

/-- The wait that the environment asks for. -/
def defaultRetryWindow (environment : List (String × String)) : Except Fault Duration := do
  let settings ← EngineSettings.read environment
  ofSetting settings.retryWindowSeconds

/-- The timeout that the environment asks for. -/
def defaultTimeout (environment : List (String × String)) : Except Fault Duration := do
  let settings ← EngineSettings.read environment
  ofSetting settings.timeoutSeconds

/-- The duration that was given, or the one the environment asks for. -/
def given (duration : Option Duration) (default : Except Fault Duration) :
    Except Fault Duration :=
  match duration with
  | some duration => .ok duration
  | none => default

/-- A configuration whose missing times come from the environment; it is not validated. -/
def build (environment : List (String × String)) (retryWindow timeout : Option Duration) :
    Except Fault Configuration := do
  let retryWindow ← given retryWindow (defaultRetryWindow environment)
  let timeout ← given timeout (defaultTimeout environment)
  .ok { retryWindow, timeout }

def ofSpan (span : Span) : Except Fault Duration :=
  span.duration.mapError Fault.ofTime

/-- Replaces the times that were given, the wait first. -/
def adjust (configuration : Configuration) (retryWindow timeout : Option Span) :
    Except Fault Configuration := do
  let retryWindow ← match retryWindow with
    | some span => ofSpan span
    | none => .ok configuration.retryWindow
  let timeout ← match timeout with
    | some span => ofSpan span
    | none => .ok configuration.timeout
  .ok { retryWindow, timeout }

/-- A valid configuration from times in seconds. The settings of the environment are read even if
both times are given. -/
def ofSeconds (environment : List (String × String)) (retryWindow timeout : Option Amount) :
    Except Fault Configuration := do
  let configuration ← build environment none none
  let configuration ← configuration.adjust (retryWindow.map .seconds) (timeout.map .seconds)
  configuration.validate

end Configuration

end Checkup
