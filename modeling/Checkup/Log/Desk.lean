import Checkup.Log.Event

/-!
# The log desk

The desk receives every event and writes it to the console and to log files. Before the first
configuration the console shows warnings and worse; the first one gives it a handler, and from then
on it shows what the level admits. Each configuration that names a file adds a handler that writes to
this file from the level it came with. Files are told apart by their names.
-/

namespace Checkup.Log

/-- Writes events from a level on to a file. -/
structure FileHandler where
  file : String
  level : Level
deriving DecidableEq, Repr

/-- Where events go, and the lines written so far, the newest first. -/
structure Desk where
  level : Level := .unconfigured
  style : Style := .record
  hasConsole : Bool := false
  handlers : List FileHandler := []
  console : List Line := []
  files : List (String × List Line) := []
deriving Inhabited, Repr

structure Setup where
  level : LevelChoice := .named "INFO"
  style : Style := .record
  file : Option String := none

/-- The log file that is named; an empty name is none. -/
def Setup.file? (setup : Setup) : Option String :=
  setup.file.filter (!·.isEmpty)

namespace Desk

/-- The lines of a file, the newest first. -/
def linesOf (files : List (String × List Line)) (file : String) : List Line :=
  (Keyed.get? files file).getD []

def writeTo (file : String) (line : Line) (files : List (String × List Line)) :
    List (String × List Line) :=
  Keyed.set file (line :: linesOf files file) files

/-- Creates a file unless it exists. -/
def create (file : String) (files : List (String × List Line)) : List (String × List Line) :=
  Keyed.set file (linesOf files file) files

/-- The console shows an event: always once there is a handler for it, and otherwise if the event is
at least a warning. -/
def consoleShows (desk : Desk) (severity : Severity) : Bool :=
  desk.hasConsole || (desk.handlers.isEmpty && Level.unconfigured.admits severity)

def emit (desk : Desk) (event : Event) : Desk :=
  if desk.level.admits event.severity then
    let line : Line := ⟨event, desk.style⟩
    { desk with
      console := if desk.consoleShows event.severity then line :: desk.console else desk.console
      files := desk.handlers.foldl (fun files handler =>
        if handler.level.admits event.severity then writeTo handler.file line files else files)
        desk.files }
  else desk

/-- Configures the log. The console is given a handler if nothing has one yet. An unknown level
changes nothing; a file that cannot be opened leaves level, style and console configured. -/
def configure (opening : String → Option Fault) (setup : Setup) (desk : Desk) :
    Except Fault Level × Desk :=
  match setup.level.resolve with
  | .error fault => (.error fault, desk)
  | .ok level =>
    let ready :=
      { desk with
        level
        style := setup.style
        hasConsole := desk.hasConsole || desk.handlers.isEmpty }
    match setup.file? with
    | none => (.ok level, ready)
    | some file =>
      match opening file with
      | some fault => (.error fault, ready)
      | none =>
        (.ok level,
          { ready with
            handlers := ready.handlers ++ [⟨file, level⟩]
            files := create file ready.files })

end Desk

end Checkup.Log
