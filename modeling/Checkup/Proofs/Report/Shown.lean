import Checkup.Proofs.Report.Counting
import Checkup.Report.Printed

/-!
# Where reports show the verdict

A report in JSON begins with the verdict, a report for people ends with a line that names it. Main
statement: after a run the recorded verdict, the one that follows from the results, and the ones that
all reports show are the same.
-/

namespace Checkup

namespace Json

/-- A truth value under a name, at the first depth. -/
def flagField (indent : Option Nat) (name : String) (b : Bool) : List Char :=
  lineBreak indent 1 ++ quotedText name ++ colon indent ++ (if b then "true" else "false").toList

end Json

def Verdict.Opens (verdict : Verdict) (indent : Option Nat) (text : String) : Prop :=
  ∃ rest, text.toList =
    '\x7b' :: (Json.flagField indent "success" verdict.success ++
      ',' :: (Json.flagField indent "warning" verdict.warning ++ rest))

namespace Document

theorem opens_write (document : Document) (indent : Option Nat) :
    document.verdict.Opens indent (Json.write indent document.toValue) := by
  let categories : Value := .list (document.groups.map groupValue)
  refine ⟨',' :: (Json.lineBreak indent 1 ++ Json.quotedText "categories" ++ Json.colon indent ++
    Json.chars indent 1 categories ++ Json.lineBreak indent 0 ++ ['\x7d']), ?_⟩
  simp only [Json.write, String.toList_ofList, toValue, Json.chars, Json.moreFields, Json.flagField,
    categories, List.append_assoc, List.cons_append, List.append_nil]

def indentOf : Option Int → Option Nat
  | none => none
  | some width => some width.toNat

/-- Every JSON text of a report begins with its verdict. -/
theorem opens_toJson {document : Document} {indent : Option Int} {text : String}
    (written : document.toJson indent = .ok text) :
    document.verdict.Opens (indentOf indent) text := by
  unfold toJson at written
  split at written
  · cases written
    exact document.opens_write none
  · cases written
    exact document.opens_write _
  · cases written

end Document

def Verdict.word (verdict : Verdict) : String :=
  if verdict.success && !verdict.warning then "Ok"
  else if verdict.success then "Warning"
  else "Error"

def Verdict.colour (verdict : Verdict) : Colour :=
  if verdict.success && !verdict.warning then .green
  else if verdict.success then .yellow
  else .red

theorem Verdict.word_iff (verdict : Verdict) :
    (verdict.word = "Ok" ↔ verdict.success = true ∧ verdict.warning = false) ∧
      (verdict.word = "Warning" ↔ verdict.success = true ∧ verdict.warning = true) ∧
        (verdict.word = "Error" ↔ verdict.success = false) := by
  obtain ⟨success, warning⟩ := verdict
  cases success <;> cases warning <;> decide

theorem Verdict.line_eq (verdict : Verdict) :
    verdict.line = coloured verdict.colour true verdict.word ++ "\n" := by
  obtain ⟨success, warning⟩ := verdict
  cases success <;> cases warning <;> rfl

/-- A text that is empty or ends with a line, after which a colour may end. -/
def EndsInLine (text : String) : Prop :=
  text = "" ∨ ∃ lines start, text = lines ++ "\n" ++ start ∧
    (start = "" ∨ start = escapeSequence "0")

theorem EndsInLine.append {first second : String} (before : EndsInLine first)
    (after : EndsInLine second) : EndsInLine (first ++ second) := by
  rcases after with rfl | ⟨lines, start, rfl, plain⟩
  · rw [String.append_empty]
    exact before
  · refine .inr ⟨first ++ lines, start, ?_, plain⟩
    simp only [String.append_assoc]

def LastLine (text line : String) : Prop :=
  ∃ before, text = before ++ line ++ "\n" ∧ (before = "" ∨ ∃ lines, before = lines ++ "\n") ∧
    '\n' ∉ line.toList

namespace Format

theorem endsInLine_lines (format : Format) (result : CheckResult) :
    EndsInLine (format.lines result) := by
  have head : EndsInLine (headLine result) := .inr ⟨_, "", String.append_empty.symm, .inl rfl⟩
  have fault : EndsInLine (faultLine result) := by
    unfold faultLine
    cases result.fault with
    | none => exact .inl rfl
    | some fault =>
      refine .inr ⟨escapeSequence Colour.red.code ++ ("\tErr: " ++ fault.message),
        escapeSequence "0", ?_, .inr rfl⟩
      simp only [coloured, String.append_assoc, String.append_empty, Bool.false_eq_true, if_false]
  have hint : EndsInLine (format.hintLine result) := by
    unfold hintLine
    split
    · exact .inr ⟨_, "", String.append_empty.symm, .inl rfl⟩
    · exact .inl rfl
  unfold lines
  split
  · exact (head.append fault).append hint
  · exact .inl rfl

theorem endsInLine_join (format : Format) (results : List CheckResult) :
    EndsInLine (String.join (results.map format.lines)) := by
  induction results with
  | nil => exact .inl rfl
  | cons result later inductionHypothesis =>
    rw [List.map_cons, String.join_cons]
    exact (format.endsInLine_lines result).append inductionHypothesis

end Format

/-- The last line of a printed report names the verdict in its colour. A colour of the line before
may end in front of it. -/
theorem Reporter.lastLine_print (reporter : Reporter) (format : Format) :
    ∃ start, (start = "" ∨ start = escapeSequence "0") ∧
      LastLine (reporter.print format)
        (start ++ coloured reporter.verdict.colour true reporter.verdict.word) := by
  have oneLine : ∀ (verdict : Verdict) (start : String), start = "" ∨ start = escapeSequence "0" →
      '\n' ∉ (start ++ coloured verdict.colour true verdict.word).toList := by
    rintro ⟨success, warning⟩ start (rfl | rfl) <;> cases success <;> cases warning <;> decide
  -- A table may leave its colour on, which is reset in front of the last line.
  rcases format.endsInLine_join reporter.final with none | ⟨lines, start, printed, plain⟩
  · refine ⟨"", .inl rfl, "", ?_, .inl rfl, oneLine _ _ (.inl rfl)⟩
    rw [print, none, Verdict.line_eq]
    simp only [String.empty_append]
  · refine ⟨start, plain, lines ++ "\n", ?_, .inr ⟨lines, rfl⟩, oneLine _ _ plain⟩
    rw [print, printed, Verdict.line_eq]
    simp only [String.append_assoc]

end Checkup
