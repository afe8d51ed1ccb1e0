import Checkup.Proofs.Command.ExitCodes
import Checkup.Proofs.Json.RoundTrip

/-!
# Restoring a report

A report in JSON can be read back. Main statement: the text is read as the record of the report,
whatever characters the report holds and however the text is indented, the report is restored from the
record, and what a command writes in this format is such a text with a line feed after it.
-/

namespace Checkup

/-! ## Records of reports -/

def Status.ofName? (name : String) : Option Status :=
  if name = "success" then some .success
  else if name = "warning" then some .warning
  else if name = "error" then some .error
  else none

@[simp] theorem Status.ofName?_name (status : Status) : ofName? status.name = some status := by
  cases status <;> rfl

/-- A text that need not be there. -/
def Value.optionalText? (value : Value) (name : String) : Option (Option String) :=
  match value.field? name with
  | none => some none
  | some (.text s) => some (some s)
  | some _ => none

def ReportEntry.ofValue? (value : Value) : Option ReportEntry := do
  let description ← (← value.field? "description").text?
  let hint ← value.optionalText? "hint"
  let error ← value.optionalText? "error"
  let status ← Status.ofName? (← (← value.field? "result").text?)
  some { description, hint, error, status }

def ReportGroup.ofValue? (value : Value) : Option ReportGroup := do
  let category ← (← value.field? "categoryName").text?
  let entries ← (← (← value.field? "checks").items?).mapM ReportEntry.ofValue?
  some { category, entries }

def Document.ofValue? (value : Value) : Option Document := do
  let success ← (← value.field? "success").flag?
  let warning ← (← value.field? "warning").flag?
  let groups ← (← (← value.field? "categories").items?).mapM ReportGroup.ofValue?
  some { verdict := { success, warning }, groups }

/-- Items that are all restored one by one are restored together. -/
theorem mapM_map_of_restores {shown : α → β} {restore : β → Option α}
    (restores : ∀ item, restore (shown item) = some item) (items : List α) :
    (items.map shown).mapM restore = some items := by
  induction items with
  | nil => rfl
  | cons item later inductionHypothesis =>
    rw [List.map_cons, List.mapM_cons, restores, inductionHypothesis]
    rfl

theorem ReportEntry.ofValue?_entryValue (entry : ReportEntry) :
    ofValue? (Document.entryValue entry) = some entry := by
  obtain ⟨description, hint, error, status⟩ := entry
  cases hint <;> cases error <;> cases status <;> rfl

theorem ReportGroup.ofValue?_groupValue (group : ReportGroup) :
    ofValue? (Document.groupValue group) = some group := by
  have entries := mapM_map_of_restores ReportEntry.ofValue?_entryValue group.entries
  have checks : (Document.groupValue group).field? "checks" =
      some (.list (group.entries.map Document.entryValue)) := rfl
  rw [ofValue?, checks]
  simp only [Value.items?, Option.bind_eq_bind, Option.bind_some, entries]
  rfl

namespace Document

theorem ofValue?_toValue (document : Document) : ofValue? document.toValue = some document := by
  have groups := mapM_map_of_restores ReportGroup.ofValue?_groupValue document.groups
  have categories : document.toValue.field? "categories" =
      some (.list (document.groups.map groupValue)) := rfl
  rw [ofValue?, categories]
  simp only [Value.items?, Option.bind_eq_bind, Option.bind_some, groups]
  rfl

theorem numberless_list_map {shown : α → Value} (each : ∀ item, Json.Numberless (shown item))
    (items : List α) : Json.Numberless (.list (items.map shown)) :=
  .list (List.forall_mem_map.mpr fun item _ => each item)

theorem numberless_optionalField (name : String) (text : Option String) :
    ∀ field ∈ optionalField name text, Json.Numberless field.2 := by
  cases text with
  | none => simp [optionalField]
  | some s => simp [optionalField, Json.Numberless.text]

theorem numberless_entryValue (entry : ReportEntry) : Json.Numberless (entryValue entry) := by
  refine .record ?_
  simp only [List.forall_mem_append, List.forall_mem_singleton]
  exact ⟨⟨⟨.text _, numberless_optionalField _ _⟩, numberless_optionalField _ _⟩, .text _⟩

theorem numberless_groupValue (group : ReportGroup) : Json.Numberless (groupValue group) := by
  have entries : Json.Numberless (.list (group.entries.map entryValue)) :=
    numberless_list_map numberless_entryValue group.entries
  refine .record ?_
  exact List.forall_mem_cons.mpr ⟨.text _, List.forall_mem_singleton.mpr entries⟩

theorem numberless_toValue (document : Document) : Json.Numberless document.toValue := by
  have groups : Json.Numberless (.list (document.groups.map groupValue)) :=
    numberless_list_map numberless_groupValue document.groups
  refine .record ?_
  exact List.forall_mem_cons.mpr
    ⟨.flag _, List.forall_mem_cons.mpr ⟨.flag _, List.forall_mem_singleton.mpr groups⟩⟩

/-- A JSON text of a report is read as the record of the report. -/
theorem read?_toJson {document : Document} {indent : Option Int} {text : String}
    (written : document.toJson indent = .ok text) : Json.read? text = some document.toValue := by
  unfold toJson at written
  split at written
  · cases written
    exact Json.read?_write document.numberless_toValue none
  · cases written
    exact Json.read?_write document.numberless_toValue _
  · cases written

/-- Different reports have different JSON texts, also if the texts are indented in different ways. -/
theorem toJson_injective {document other : Document} {indent otherIndent : Option Int}
    {text : String} (written : document.toJson indent = .ok text)
    (writtenToo : other.toJson otherIndent = .ok text) : document = other := by
  have same : document.toValue = other.toValue :=
    Option.some.inj ((read?_toJson written).symm.trans (read?_toJson writtenToo))
  have restored : some document = some other := by
    rw [← document.ofValue?_toValue, ← other.ofValue?_toValue, same]
  exact Option.some.inj restored

end Document

namespace Command

variable {catalogue : Catalogue} {args : List String} {session : Session}
  {request : CheckRequest} {limit : Nat}

def Reports (request : CheckRequest) (catalogue : Catalogue) (session : Session) (limit : Nat)
    (reporter : Reporter) : Prop :=
  ∃ settings engine prepared after,
    EngineSettings.read session.host.environment = .ok settings ∧
      request.prepare catalogue settings session = (.ok engine, prepared) ∧
        engine.report limit prepared = (.ok reporter, after)

/-- A command writes the report that it comes to. -/
theorem Reports.output_eq {output : Output} {reporter : Reporter}
    (reports : Reports request catalogue session limit reporter)
    (asked : Invocation.read args = .check request)
    (known : Output.ofName? request.output = some output) :
    (run catalogue args session limit).1.output = output.text reporter := by
  obtain ⟨settings, engine, prepared, after, set, ready, reported⟩ := reports
  rw [run_eq_of_report asked known set ready reported]

/-- A command that comes to no report writes nothing. -/
theorem output_eq_of_not_reports {output : Output}
    (nothing : ∀ reporter, ¬Reports request catalogue session limit reporter)
    (asked : Invocation.read args = .check request)
    (known : Output.ofName? request.output = some output) :
    (run catalogue args session limit).1.output = "" := by
  cases set : EngineSettings.read session.host.environment with
  | error fault =>
    simp only [run, asked, CheckRequest.run, known, bind, Action.look, Action.lift, set,
      Exit.output_ofFault]
  | ok settings =>
    rcases ready : request.prepare catalogue settings session with ⟨fault | engine, prepared⟩
    · rw [run_eq_of_unprepared asked known set ready]
      split
      · rfl
      · exact Exit.output_ofFault fault
    · rcases reported : engine.report limit prepared with ⟨fault | reporter, after⟩
      · rw [run_eq_of_fault asked known set ready reported, Exit.output_ofFault]
      · exact absurd ⟨settings, engine, prepared, after, set, ready, reported⟩ (nothing reporter)

end Command

/-- A report in JSON can be read back. With every indentation, and none, there is a text for a
reporter's report, whatever results it was told; the text is read as the record of the report, and the
report is restored from the record. Hence different reports have different texts. A command that is
asked for this format writes exactly the compact text of the report that it comes to with a line feed
after it, and nothing if it comes to none. -/
theorem Document.restored_from_json :
    (∀ (reporter : Reporter) (width : Option Nat), ∃ text,
        (ofReporter reporter).toJson (width.map Int.ofNat) = .ok text ∧
          Json.read? text = some (ofReporter reporter).toValue ∧
            ofValue? (ofReporter reporter).toValue = some (ofReporter reporter)) ∧
      (∀ (document other : Document) (indent otherIndent : Option Int) (text : String),
        document.toJson indent = .ok text → other.toJson otherIndent = .ok text →
          document = other) ∧
      ∀ (catalogue : Catalogue) (args : List String) (session : Session) (limit : Nat)
        (request : Command.CheckRequest),
        Command.Invocation.read args = .check request → request.output = "json" →
          (∃ reporter text, Command.Reports request catalogue session limit reporter ∧
              (ofReporter reporter).toJson none = .ok text ∧
                (Command.run catalogue args session limit).1.output = text ++ "\n") ∨
            (∀ reporter, ¬Command.Reports request catalogue session limit reporter) ∧
              (Command.run catalogue args session limit).1.output = "" := by
  refine ⟨?_, ?_, ?_⟩
  · intro reporter width
    obtain ⟨text, written⟩ : ∃ text, (ofReporter reporter).toJson (width.map Int.ofNat) = .ok text := by
      cases width <;> exact ⟨_, rfl⟩
    exact ⟨text, written, read?_toJson written, ofValue?_toValue _⟩
  · intro document other indent otherIndent text written writtenToo
    exact toJson_injective written writtenToo
  · intro catalogue args session limit request asked format
    have known : Output.ofName? request.output = some .json := by
      rw [format]
      rfl
    by_cases reports : ∃ reporter, Command.Reports request catalogue session limit reporter
    · obtain ⟨reporter, reports⟩ := reports
      exact .inl ⟨reporter, _, reports, rfl, reports.output_eq asked known⟩
    · have nothing := not_exists.mp reports
      exact .inr ⟨nothing, Command.output_eq_of_not_reports nothing asked known⟩

/-- A report on one check that names a fault, or none. -/
def relayReport (error : Option String) : Document :=
  { verdict := {}
    groups :=
      [⟨"relay", [{ description := "relay closed", hint := none, error, status := .success }]⟩] }

/-- What is asked for by a command without a suite and with JSON as its output. -/
def jsonRequest : Command.CheckRequest := { output := "json" }

theorem jsonRequest_restored :
    (∃ reporter text,
        (Command.run [] ["check", "-o", "json"] {} 1).1.output = text ++ "\n" ∧
          Json.read? text = some (Document.ofReporter reporter).toValue) ∧
      (relayReport none).toJson none ≠ (relayReport (some "")).toJson (some 2) := by
  obtain ⟨restores, distinct, writes⟩ := Document.restored_from_json
  refine ⟨?_, ?_⟩
  · have asked : Command.Invocation.read ["check", "-o", "json"] = .check jsonRequest := rfl
    have some : (Command.run [] ["check", "-o", "json"] {} 1).1.output ≠ "" := by decide +kernel
    rcases writes [] _ {} 1 jsonRequest asked rfl with ⟨reporter, text, _, written, output⟩ | none
    · obtain ⟨other, writtenToo, read, _⟩ := restores reporter none
      cases written.symm.trans writtenToo
      exact ⟨reporter, text, output, read⟩
    · exact absurd none.2 some
  · intro same
    have equal := distinct (relayReport none) (relayReport (some "")) none (some 2) _ rfl same.symm
    revert equal
    decide

end Checkup
