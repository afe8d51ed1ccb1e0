import Checkup.Log.Desk
import Mathlib.Data.List.Basic

/-!
# Delivery of events

A log may be configured any number of times, and attempts to do so may fail. Main statement: however
a log came about, an event that its level admits is written to the console once, and to a file once
for every attempt that named the file and whose own level admits the event; so that every event is
written once wherever it should be, if no file was named twice, none came with a level above the
last one, and no attempt failed on its file.
-/

namespace Checkup.Log

/-- An attempt to configure a log, and what it meets when it opens a file. -/
structure Attempt where
  setup : Setup
  opening : String → Option Fault := fun _ => none

namespace Attempt

/-- The level that an attempt asks for, if it is known. -/
def level? (attempt : Attempt) : Option Level :=
  attempt.setup.level.resolve.toOption

/-- What an attempt answers: its level, or the fault of the level or of opening the file. -/
def answer (attempt : Attempt) : Except Fault Level := do
  let level ← attempt.setup.level.resolve
  match attempt.setup.file?.bind attempt.opening with
  | some fault => .error fault
  | none => .ok level

def handler? (attempt : Attempt) : Option FileHandler :=
  match attempt.answer with
  | .ok level => attempt.setup.file?.map (⟨·, level⟩)
  | .error _ => none

def configured (attempt : Attempt) (desk : Desk) : Desk :=
  (desk.configure attempt.opening attempt.setup).2

theorem configure_fst (attempt : Attempt) (desk : Desk) :
    (desk.configure attempt.opening attempt.setup).1 = attempt.answer := by
  unfold Desk.configure answer
  cases attempt.setup.level.resolve with
  | error fault => rfl
  | ok level =>
    cases attempt.setup.file? with
    | none => rfl
    | some file =>
      simp only [bind, Except.bind, Option.bind_some]
      cases attempt.opening file <;> rfl

theorem level?_eq_none_iff {attempt : Attempt} :
    attempt.level? = none ↔ ∃ fault, attempt.setup.level.resolve = .error fault := by
  unfold level?
  cases attempt.setup.level.resolve <;> simp [Except.toOption]

theorem level?_eq_some_iff {attempt : Attempt} {level : Level} :
    attempt.level? = some level ↔ attempt.setup.level.resolve = .ok level := by
  unfold level?
  cases attempt.setup.level.resolve <;> simp [Except.toOption]

theorem configured_of_unknown {attempt : Attempt} (unknown : attempt.level? = none) (desk : Desk) :
    attempt.configured desk = desk := by
  obtain ⟨fault, refused⟩ := level?_eq_none_iff.mp unknown
  simp [configured, Desk.configure, refused]

/-- An attempt with a known level takes its level and its style over, sees to a console, and adds
its handler. -/
theorem configured_of_known {attempt : Attempt} {level : Level}
    (known : attempt.level? = some level) (desk : Desk) :
    attempt.configured desk =
      { desk with
        level
        style := attempt.setup.style
        hasConsole := desk.hasConsole || desk.handlers.isEmpty
        handlers := desk.handlers ++ attempt.handler?.toList
        files := attempt.handler?.elim desk.files fun handler =>
          Desk.create handler.file desk.files } := by
  have resolved := level?_eq_some_iff.mp known
  unfold configured Desk.configure handler? answer
  simp only [resolved, bind, Except.bind]
  cases attempt.setup.file? with
  | none => simp
  | some file => cases opened : attempt.opening file <;> simp [opened]

theorem handler?_eq_none_of_unknown {attempt : Attempt} (unknown : attempt.level? = none) :
    attempt.handler? = none := by
  obtain ⟨fault, refused⟩ := level?_eq_none_iff.mp unknown
  simp [handler?, answer, refused, bind, Except.bind]

theorem handler?_of_fault {attempt : Attempt} {fault : Fault}
    (failed : attempt.answer = .error fault) : attempt.handler? = none := by
  simp [handler?, failed]

end Attempt

namespace Desk

theorem linesOf_set (file other : String) (lines : List Line) (files : List (String × List Line)) :
    linesOf (Keyed.set file lines files) other =
      if other = file then lines else linesOf files other := by
  unfold linesOf
  by_cases same : other = file
  · subst same
    simp
  · rw [Keyed.get?_set_of_ne files _ same, if_neg same]

theorem linesOf_writeTo (file other : String) (line : Line) (files : List (String × List Line)) :
    linesOf (writeTo file line files) other =
      if other = file then line :: linesOf files file else linesOf files other :=
  linesOf_set file other _ files

theorem linesOf_create (file other : String) (files : List (String × List Line)) :
    linesOf (create file files) other = linesOf files other := by
  rw [create, linesOf_set]
  split
  · rw [‹other = file›]
  · rfl

/-- An attempt to configure a log writes nothing. -/
theorem lines_configured (attempt : Attempt) (desk : Desk) :
    (attempt.configured desk).console = desk.console ∧
      ∀ file, linesOf (attempt.configured desk).files file = linesOf desk.files file := by
  cases asked : attempt.level? with
  | none => simp [Attempt.configured_of_unknown asked]
  | some level =>
    rw [Attempt.configured_of_known asked]
    cases attempt.handler? with
    | none => simp
    | some handler => simp [linesOf_create]

/-- How often an event of a severity is written to a file: once by every handler for the file whose
level admits it, if the level of the log does. -/
def copies (desk : Desk) (severity : Severity) (file : String) : Nat :=
  if desk.level.admits severity then
    desk.handlers.countP fun handler => handler.file == file && handler.level.admits severity
  else 0

theorem linesOf_handled (handlers : List FileHandler) (line : Line) (file : String)
    (files : List (String × List Line)) :
    linesOf (handlers.foldl (fun files handler =>
        if handler.level.admits line.event.severity then writeTo handler.file line files else files)
        files) file =
      List.replicate (handlers.countP fun handler =>
          handler.file == file && handler.level.admits line.event.severity) line ++
        linesOf files file := by
  induction handlers generalizing files with
  | nil => simp
  | cons handler handlers inductionHypothesis =>
    rw [List.foldl_cons, inductionHypothesis, List.countP_cons]
    by_cases admitted : handler.level.admits line.event.severity = true
    · by_cases same : file = handler.file
      · simp [admitted, same, linesOf_writeTo, List.replicate_succ']
      · simp [admitted, same, Ne.symm same, linesOf_writeTo]
    · simp [admitted]

theorem linesOf_emit (desk : Desk) (event : Event) (file : String) :
    linesOf (desk.emit event).files file =
      List.replicate (desk.copies event.severity file) ⟨event, desk.style⟩ ++
        linesOf desk.files file := by
  unfold emit copies
  split
  · exact linesOf_handled desk.handlers ⟨event, desk.style⟩ file desk.files
  · rfl

theorem console_emit {desk : Desk} (shows : desk.hasConsole = true) (event : Event) :
    (desk.emit event).console =
      if desk.level.admits event.severity then ⟨event, desk.style⟩ :: desk.console
      else desk.console := by
  unfold emit consoleShows
  split <;> simp [shows]

/-- Nothing of a log has a handler. -/
structure Bare (desk : Desk) : Prop where
  console : desk.hasConsole = false
  handlers : desk.handlers = []

/-- What a log has become by attempts to configure it, in this order, with events before, between
and after them. -/
inductive Reached (start : Desk) : List Attempt → Desk → Prop where
  | start : Reached start [] start
  | configured {attempts : List Attempt} {desk : Desk} (reached : Reached start attempts desk)
      (attempt : Attempt) : Reached start (attempts ++ [attempt]) (attempt.configured desk)
  | received {attempts : List Attempt} {desk : Desk} (reached : Reached start attempts desk)
      (event : Event) : Reached start attempts (desk.emit event)

/-- A log is set as attempts have left it. -/
structure SetBy (attempts : List Attempt) (desk : Desk) : Prop where
  level : ∀ level, (attempts.filterMap (·.level?)).getLast? = some level → desk.level = level
  handlers : desk.handlers = attempts.filterMap (·.handler?)
  console : desk.hasConsole = !(attempts.filterMap (·.level?)).isEmpty

theorem Bare.setBy {desk : Desk} (bare : desk.Bare) : SetBy [] desk where
  level level last := by cases last
  handlers := bare.handlers
  console := bare.console

theorem SetBy.emit {attempts : List Attempt} {desk : Desk} (set : SetBy attempts desk)
    (event : Event) : SetBy attempts (desk.emit event) := by
  unfold Desk.emit
  split
  · exact ⟨set.level, set.handlers, set.console⟩
  · exact set

/-- A log without a handler for the console has none for a file either. -/
theorem SetBy.console_or {attempts : List Attempt} {desk : Desk} (set : SetBy attempts desk) :
    (desk.hasConsole || desk.handlers.isEmpty) = true := by
  cases known : attempts.filterMap (·.level?) with
  | cons level levels => simp [set.console, known]
  | nil =>
    have none : attempts.filterMap (·.handler?) = [] := by
      rw [List.filterMap_eq_nil_iff] at known ⊢
      exact fun attempt member => Attempt.handler?_eq_none_of_unknown (known attempt member)
    simp [set.handlers, none]

theorem SetBy.configured {attempts : List Attempt} {desk : Desk} (set : SetBy attempts desk)
    (attempt : Attempt) : SetBy (attempts ++ [attempt]) (attempt.configured desk) := by
  cases asked : attempt.level? with
  | none =>
    rw [Attempt.configured_of_unknown asked]
    have noHandler := Attempt.handler?_eq_none_of_unknown asked
    exact ⟨by simpa [asked] using set.level, by simpa [noHandler] using set.handlers,
      by simpa [asked] using set.console⟩
  | some level =>
    rw [Attempt.configured_of_known asked]
    refine ⟨by simp [asked], ?_, ?_⟩
    · cases added : attempt.handler? <;> simp [added, set.handlers]
    · have filled : ((attempts ++ [attempt]).filterMap (·.level?)).isEmpty = false := by
        simp [asked]
      exact set.console_or.trans (congrArg not filled).symm

theorem Reached.setBy {start desk : Desk} {attempts : List Attempt} (bare : start.Bare)
    (reached : Reached start attempts desk) : SetBy attempts desk := by
  induction reached with
  | start => exact bare.setBy
  | configured _ attempt inductionHypothesis => exact inductionHypothesis.configured attempt
  | received _ event inductionHypothesis => exact inductionHypothesis.emit event

def Named (attempts : List Attempt) (file : String) : Prop :=
  ∃ attempt ∈ attempts, ∃ level, attempt.answer = .ok level ∧ attempt.setup.file? = some file

theorem named_iff {attempts : List Attempt} {file : String} :
    Named attempts file ↔ ∃ handler ∈ attempts.filterMap (·.handler?), handler.file = file := by
  constructor
  · rintro ⟨attempt, member, level, succeeds, named⟩
    have added : attempt.handler? = some ⟨file, level⟩ := by
      simp [Attempt.handler?, succeeds, named]
    exact ⟨_, List.mem_filterMap.mpr ⟨attempt, member, added⟩, rfl⟩
  · rintro ⟨handler, member, rfl⟩
    obtain ⟨attempt, attempted, added⟩ := List.mem_filterMap.mp member
    cases succeeds : attempt.answer with
    | error fault => simp [Attempt.handler?, succeeds] at added
    | ok level =>
      simp only [Attempt.handler?, succeeds, Option.map_eq_some_iff] at added
      obtain ⟨file, named, rfl⟩ := added
      exact ⟨attempt, attempted, level, succeeds, named⟩

/-- How many of the successful attempts have events of a severity written to a file. -/
def namings (attempts : List Attempt) (severity : Severity) (file : String) : Nat :=
  (attempts.filterMap (·.handler?)).countP fun handler =>
    handler.file == file && handler.level.admits severity

/-- Every event that a level admits is written once to the console and once to each of some files,
and is written nowhere else; other events are not written at all. -/
structure Delivers (desk : Desk) (level : Level) (files : String → Prop) : Prop where
  console : ∀ event, level.admits event.severity = true →
    (desk.emit event).console = ⟨event, desk.style⟩ :: desk.console
  file : ∀ event file, level.admits event.severity = true → files file →
    linesOf (desk.emit event).files file = ⟨event, desk.style⟩ :: linesOf desk.files file
  nowhere : ∀ event file, ¬files file →
    linesOf (desk.emit event).files file = linesOf desk.files file
  other : ∀ event, level.admits event.severity = false → desk.emit event = desk

/-- Attempts that leave nothing out and do nothing twice: none failed on its file, no file was named
twice, and none that named a file asked for a higher level than the last one. -/
structure Orderly (attempts : List Attempt) (level : Level) : Prop where
  last : (attempts.filterMap (·.answer.toOption)).getLast? = some level
  opened : ∀ attempt ∈ attempts, attempt.level? = attempt.answer.toOption
  once : ((attempts.filterMap (·.handler?)).map (·.file)).Nodup
  below : ∀ handler ∈ attempts.filterMap (·.handler?), handler.level.rank ≤ level.rank

theorem Orderly.namings_eq {attempts : List Attempt} {level : Level} {severity : Severity}
    {file : String} (orderly : Orderly attempts level) (admits : level.admits severity = true)
    (named : Named attempts file) : namings attempts severity file = 1 := by
  have all : ∀ handler ∈ attempts.filterMap (·.handler?),
      handler.level.admits severity = true := by
    intro handler member
    have low := orderly.below handler member
    simp only [Level.admits, decide_eq_true_eq] at admits ⊢
    omega
  have counted : namings attempts severity file =
      ((attempts.filterMap (·.handler?)).map (·.file)).count file := by
    rw [namings, List.count, List.countP_map]
    exact List.countP_congr fun handler member => by simp [all handler member]
  rw [counted, orderly.once.count]
  exact if_pos (List.mem_map.mpr (named_iff.mp named))

theorem namings_eq_zero {attempts : List Attempt} {file : String}
    (unnamed : ¬Named attempts file) (severity : Severity) :
    namings attempts severity file = 0 := by
  rw [namings, List.countP_eq_zero]
  intro handler member counts
  have same : handler.file = file := by simpa using (Bool.and_eq_true_iff.mp counts).1
  exact unnamed (named_iff.mpr ⟨handler, member, same⟩)

/-- Orderly attempts end with a level that is known and in force. -/
theorem Orderly.last_known {attempts : List Attempt} {level : Level}
    (orderly : Orderly attempts level) :
    (attempts.filterMap (·.level?)).getLast? = some level := by
  rw [List.filterMap_congr orderly.opened]
  exact orderly.last

/-- What an event adds to a log is determined by the attempts that have set it. -/
theorem SetBy.emit_eq {attempts : List Attempt} {desk : Desk} (set : SetBy attempts desk)
    {level : Level} (last : (attempts.filterMap (·.level?)).getLast? = some level) (event : Event) :
    (desk.emit event).console =
        (if level.admits event.severity then ⟨event, desk.style⟩ :: desk.console
        else desk.console) ∧
      ∀ file, linesOf (desk.emit event).files file =
        List.replicate
            (if level.admits event.severity then namings attempts event.severity file else 0)
            ⟨event, desk.style⟩ ++
          linesOf desk.files file := by
  have inForce := set.level level last
  have shows : desk.hasConsole = true := by
    rw [set.console]
    cases known : attempts.filterMap (·.level?) with
    | nil => simp [known] at last
    | cons => rfl
  refine ⟨by rw [console_emit shows, inForce], ?_⟩
  intro file
  rw [linesOf_emit, copies, inForce, set.handlers, namings]

theorem Orderly.delivers_named {attempts : List Attempt} {level : Level} {desk : Desk}
    (orderly : Orderly attempts level) (set : SetBy attempts desk) :
    desk.Delivers level (Named attempts) := by
  have emits := set.emit_eq orderly.last_known
  refine ⟨?_, ?_, ?_, ?_⟩
  · intro event admits
    simpa [admits] using (emits event).1
  · intro event file admits named
    simpa [admits, orderly.namings_eq admits named] using (emits event).2 file
  · intro event file unnamed
    simpa [namings_eq_zero unnamed event.severity] using (emits event).2 file
  · intro event refused
    unfold emit
    simp [set.level level orderly.last_known, refused]

/-- However a log came about that had no handlers, an event that the last known level admits is
written to the console once, and to a file once for every successful attempt that named it with a
level that admits the event; nothing else is written. After orderly attempts this is once wherever
it should be. An attempt that fails on its level changes nothing; one that fails on its file adds no
handler for it, but its level and its style are in force. -/
theorem Reached.delivers {start desk : Desk} {attempts : List Attempt} (bare : start.Bare)
    (reached : Reached start attempts desk) :
    (∀ level, (attempts.filterMap (·.level?)).getLast? = some level → ∀ event,
      (desk.emit event).console =
          (if level.admits event.severity then ⟨event, desk.style⟩ :: desk.console
          else desk.console) ∧
        ∀ file, linesOf (desk.emit event).files file =
          List.replicate
              (if level.admits event.severity then namings attempts event.severity file else 0)
              ⟨event, desk.style⟩ ++
            linesOf desk.files file) ∧
      (∀ level, Orderly attempts level → desk.Delivers level (Named attempts)) ∧
        ∀ attempt : Attempt,
          ((attempt.configured desk).console = desk.console ∧
              ∀ file, linesOf (attempt.configured desk).files file = linesOf desk.files file) ∧
            ∀ fault, (desk.configure attempt.opening attempt.setup).1 = .error fault →
              (attempt.level? = none → attempt.configured desk = desk) ∧
                ∀ level, attempt.level? = some level →
                  attempt.configured desk =
                    { desk with level, style := attempt.setup.style, hasConsole := true } := by
  have set := reached.setBy bare
  refine ⟨fun level last => set.emit_eq last, fun level orderly => orderly.delivers_named set, ?_⟩
  intro attempt
  refine ⟨lines_configured attempt desk, ?_⟩
  intro fault failed
  refine ⟨fun unknown => Attempt.configured_of_unknown unknown desk, ?_⟩
  intro level known
  rw [Attempt.configure_fst] at failed
  rw [Attempt.configured_of_known known, Attempt.handler?_of_fault failed, set.console_or]
  simp

def toFile (rank : Int) (file : String) : Attempt :=
  { setup := { level := .exact (.number rank), file := some file } }

/-- An attempt whose file cannot be opened. -/
def toMissing (rank : Int) : Attempt :=
  { toFile rank "missing/app.log" with
    opening := fun _ => some (.foreign "FileNotFoundError" [.int 2, .text "No such file"]) }

def toConsole (rank : Int) : Attempt :=
  { setup := { level := .exact (.number rank) } }

/-- A new log after attempts to configure it. -/
def setUp (attempts : List Attempt) : Desk :=
  attempts.foldl (fun desk attempt => attempt.configured desk) {}

theorem Reached.foldl {start desk : Desk} {attempts : List Attempt}
    (reached : Reached start attempts desk) (more : List Attempt) :
    Reached start (attempts ++ more)
      (more.foldl (fun desk attempt => attempt.configured desk) desk) := by
  induction more generalizing attempts desk with
  | nil => simpa using reached
  | cons attempt more inductionHypothesis =>
    simpa using inductionHypothesis (reached.configured attempt)

theorem reached_setUp (attempts : List Attempt) : Reached {} attempts (setUp attempts) :=
  Reached.start.foldl attempts

/-- Two files that were named once, the first one with a lower level, get a warning once each, as
the console does, and no information. -/
theorem setUp_delivers :
    (setUp [toFile 20 "all.log", toFile 30 "app.log"]).Delivers (.number 30)
        (Named [toFile 20 "all.log", toFile 30 "app.log"]) ∧
      Named [toFile 20 "all.log", toFile 30 "app.log"] "all.log" ∧
        Named [toFile 20 "all.log", toFile 30 "app.log"] "app.log" := by
  have orderly : Orderly [toFile 20 "all.log", toFile 30 "app.log"] (.number 30) :=
    ⟨rfl, by decide, by decide, by decide⟩
  have reached := reached_setUp [toFile 20 "all.log", toFile 30 "app.log"]
  obtain ⟨_, delivers, _⟩ := reached.delivers ⟨rfl, rfl⟩
  refine ⟨delivers _ orderly, ?_, ?_⟩
  · exact named_iff.mpr ⟨⟨"all.log", .number 20⟩, by decide, rfl⟩
  · exact named_iff.mpr ⟨⟨"app.log", .number 30⟩, by decide, rfl⟩

/-- A file that was named twice gets an event twice; one that was named with a higher level than the
last one does not get an event that it should; and an attempt that fails on its file sets the
level. -/
theorem setUp_fails :
    (linesOf ((setUp [toFile 20 "app.log", toFile 20 "app.log"]).emit ⟨.info, "started", []⟩).files
        "app.log").length = 2 ∧
      (linesOf ((setUp [toFile 40 "app.log", toConsole 10]).emit ⟨.info, "started", []⟩).files
        "app.log").length = 0 ∧
        (toMissing 10).answer.isOk = false ∧ (setUp [toConsole 40]).level = .number 40 ∧
          (setUp [toConsole 40, toMissing 10]).level = .number 10 := by
  decide

end Desk

end Checkup.Log
