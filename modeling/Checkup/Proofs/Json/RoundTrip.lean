import Checkup.Json.Reader
import Checkup.Json.Writer
import Mathlib.Data.List.Basic

/-!
# Reading back what was written

Main statement: a value without numbers that is written as JSON, compact or indented, is read back as
the same value, whatever characters its texts hold.
-/

namespace Checkup.Json

/-! ## Texts -/

theorem hexDigit?_digitChar : ∀ n < 16, hexDigit? (Nat.digitChar n) = some n := by
  decide +kernel

theorem hexadecimal_of_lt : ∀ n < 0x20,
    Text.hexadecimal 4 n = ['0', '0', Nat.digitChar (n / 16), Nat.digitChar (n % 16)] := by
  decide +kernel

/-- A control character is read back from its code point. -/
theorem codePoint?_hexadecimal {c : Char} (control : c.toNat < 0x20) (rest : List Char) :
    codePoint? (Text.hexadecimal 4 c.toNat ++ rest) = some (c, rest) := by
  have high := hexDigit?_digitChar (c.toNat / 16) (by omega)
  have low := hexDigit?_digitChar (c.toNat % 16) (by omega)
  have zero : hexDigit? '0' = some 0 := hexDigit?_digitChar 0 (by omega)
  have unit : ((0 * 16 + 0) * 16 + c.toNat / 16) * 16 + c.toNat % 16 = c.toNat := by omega
  have read : fourHex? (Text.hexadecimal 4 c.toNat ++ rest) = some (c.toNat, rest) := by
    simp only [hexadecimal_of_lt c.toNat control, List.cons_append, List.nil_append, fourHex?, zero,
      high, low, bind, Option.bind, unit]
  have notFirst : ¬(0xD800 ≤ c.toNat ∧ c.toNat < 0xDC00) := by omega
  have notSecond : ¬(0xDC00 ≤ c.toNat ∧ c.toNat < 0xE000) := by omega
  simp only [codePoint?, read, bind, Option.bind, if_neg notFirst, if_neg notSecond,
    Char.ofNat_toNat]

/-- The three ways in which a character is written. -/
inductive Escaped : Char → List Char → Prop where
  | short {c letter : Char} (stands : shortEscape? letter = some c) : Escaped c ['\\', letter]
  | control {c : Char} (control : c.toNat < 0x20) :
      Escaped c ('\\' :: 'u' :: Text.hexadecimal 4 c.toNat)
  | plain {c : Char} (unquoted : c ≠ '"') (unescaped : c ≠ '\\') (shown : 0x20 ≤ c.toNat) :
      Escaped c [c]

theorem escaped_escapeChar (c : Char) : Escaped c (escapeChar c) := by
  unfold escapeChar
  split
  · next same => exact .short (by simp [eq_of_beq same, shortEscape?])
  split
  · next same => exact .short (by simp [eq_of_beq same, shortEscape?])
  split
  · next same => exact .short (by simp [eq_of_beq same, shortEscape?])
  split
  · next same => exact .short (by simp [eq_of_beq same, shortEscape?])
  split
  · next same => exact .short (by simp [eq_of_beq same, shortEscape?])
  split
  · next same =>
    have backspace : c = '\x08' := Char.toNat_inj.mp (eq_of_beq same)
    exact .short (by simp [backspace, shortEscape?])
  split
  · next same =>
    have formFeed : c = '\x0c' := Char.toNat_inj.mp (eq_of_beq same)
    exact .short (by simp [formFeed, shortEscape?])
  split
  · next control => exact .control control
  · next quote backslash _ _ _ _ _ shown =>
    exact .plain (by simpa using quote) (by simpa using backslash) (by omega)

def consChar (c : Char) (read : Option (List Char × List Char)) : Option (List Char × List Char) :=
  read.map fun (shown, rest) => (c :: shown, rest)

theorem readText_escapeChar (fuel : Nat) (c : Char) (rest : List Char) :
    readText (fuel + 1) (escapeChar c ++ rest) = consChar c (readText fuel rest) := by
  have escaped := escaped_escapeChar c
  generalize escapeChar c = written at escaped ⊢
  cases escaped with
  | @short letter stands =>
    have unlike : letter ≠ 'u' := by
      rintro rfl
      cases stands
    rw [List.cons_append, List.singleton_append, readText, stands]
    · cases readText fuel rest <;> rfl
    · exact unlike
  | control control =>
    rw [List.cons_append, List.cons_append, readText, codePoint?_hexadecimal control]
    cases read : readText fuel rest <;> simp [consChar, read]
  | plain unquoted unescaped shown =>
    rw [List.singleton_append, readText, if_neg (Nat.not_lt.mpr shown)]
    · cases readText fuel rest <;> rfl
    · exact unquoted
    · exact fun _ same => absurd same unescaped
    · exact fun _ _ same => absurd same unescaped
    · exact fun same => absurd same unescaped

/-- The characters of a text are read back up to the closing quote. -/
theorem readText_flatMap_escapeChar {fuel : Nat} {shown : List Char} (enough : shown.length < fuel)
    (rest : List Char) :
    readText fuel (shown.flatMap escapeChar ++ '"' :: rest) = some (shown, rest) := by
  induction shown generalizing fuel with
  | nil =>
    obtain ⟨fuel, rfl⟩ := Nat.exists_eq_add_one.mpr enough
    rfl
  | cons c shown inductionHypothesis =>
    rw [List.length_cons] at enough
    obtain ⟨fuel, rfl⟩ := Nat.exists_eq_add_one.mpr (Nat.zero_lt_of_lt enough)
    rw [List.flatMap_cons, List.append_assoc, readText_escapeChar,
      inductionHypothesis (Nat.lt_of_succ_lt_succ enough)]
    rfl

theorem length_lt_length_quotedText (s : String) : s.toList.length + 1 < (quotedText s).length := by
  have atLeast : ∀ shown : List Char, shown.length ≤ (shown.flatMap escapeChar).length := by
    intro shown
    induction shown with
    | nil => exact Nat.le_refl 0
    | cons c shown inductionHypothesis =>
      have one : 0 < (escapeChar c).length := by
        have escaped := escaped_escapeChar c
        generalize escapeChar c = written at escaped ⊢
        cases escaped <;> simp
      rw [List.flatMap_cons, List.length_append, List.length_cons]
      omega
  have bound := atLeast s.toList
  simp only [quotedText, List.length_cons, List.length_append, List.length_nil]
  omega

/-! ## White space -/

def isSpace (c : Char) : Bool :=
  c == ' ' || c == '\n' || c == '\r' || c == '\t'

theorem skipSpace_append {blank : List Char} (space : ∀ c ∈ blank, isSpace c = true)
    (rest : List Char) : skipSpace (blank ++ rest) = skipSpace rest :=
  List.dropWhile_append_of_pos space

theorem skipSpace_cons {c : Char} (solid : isSpace c = false) (rest : List Char) :
    skipSpace (c :: rest) = c :: rest :=
  List.dropWhile_cons_of_neg (show ¬isSpace c = true by simp [solid])

theorem lineBreak_space (indent : Option Nat) (depth : Nat) :
    ∀ c ∈ lineBreak indent depth, isSpace c = true := by
  intro c member
  cases indent with
  | none => cases member
  | some width =>
    rcases List.mem_cons.mp member with rfl | blank
    · rfl
    · rw [List.eq_of_mem_replicate blank]
      rfl

/-- What stands between the colon and the value. -/
def gap (indent : Option Nat) : List Char :=
  if indent.isSome then [' '] else []

theorem colon_eq (indent : Option Nat) : colon indent = ':' :: gap indent := by
  cases indent <;> rfl

theorem gap_space (indent : Option Nat) : ∀ c ∈ gap indent, isSpace c = true := by
  cases indent <;> simp [gap, isSpace]

theorem readValue_append {blank : List Char} (space : ∀ c ∈ blank, isSpace c = true) (fuel : Nat)
    (rest : List Char) : readValue fuel (blank ++ rest) = readValue fuel rest := by
  cases fuel with
  | zero => rfl
  | succ fuel => rw [readValue, readValue, skipSpace_append space]

theorem readItems_append {blank : List Char} (space : ∀ c ∈ blank, isSpace c = true) (fuel : Nat)
    (rest : List Char) : readItems fuel (blank ++ rest) = readItems fuel rest := by
  cases fuel with
  | zero => rfl
  | succ fuel => rw [readItems, readItems, skipSpace_append space]

theorem readFields_append {blank : List Char} (space : ∀ c ∈ blank, isSpace c = true) (fuel : Nat)
    (rest : List Char) : readFields fuel (blank ++ rest) = readFields fuel rest := by
  cases fuel with
  | zero => rfl
  | succ fuel => rw [readFields, readFields, skipSpace_append space]

theorem readField_append {blank : List Char} (space : ∀ c ∈ blank, isSpace c = true) (fuel : Nat)
    (rest : List Char) : readField fuel (blank ++ rest) = readField fuel rest := by
  cases fuel with
  | zero => rfl
  | succ fuel => rw [readField, readField, skipSpace_append space]

/-! ## Values -/

/-- A value in which there are no numbers. -/
inductive Numberless : Value → Prop where
  | null : Numberless .null
  | flag (b : Bool) : Numberless (.flag b)
  | text (s : String) : Numberless (.text s)
  | list {items : List Value} (each : ∀ item ∈ items, Numberless item) : Numberless (.list items)
  | record {fields : List (String × Value)} (each : ∀ field ∈ fields, Numberless field.2) :
      Numberless (.record fields)

/-- A value is read back from any place in an indented text, with fuel for its characters. -/
def ReadsBack (indent : Option Nat) (value : Value) : Prop :=
  ∀ depth fuel rest, (chars indent depth value).length < fuel →
    readValue fuel (chars indent depth value ++ rest) = some (value, rest)

variable {indent : Option Nat}

/-- A value begins with a character that is neither white space nor the end of a list. -/
theorem Numberless.exists_chars_eq_cons {value : Value} (numberless : Numberless value)
    (indent : Option Nat) (depth : Nat) :
    ∃ c later, chars indent depth value = c :: later ∧ isSpace c = false ∧ c ≠ ']' := by
  cases numberless with
  | null => exact ⟨_, _, rfl, by decide, by decide⟩
  | flag b => cases b <;> exact ⟨_, _, rfl, by decide, by decide⟩
  | text s => exact ⟨_, _, rfl, by decide, by decide⟩
  | @list items each => cases items <;> exact ⟨_, _, rfl, by decide, by decide⟩
  | @record fields each => cases fields <;> exact ⟨_, _, rfl, by decide, by decide⟩

theorem readsBack_null : ReadsBack indent .null := by
  intro depth fuel rest enough
  obtain ⟨fuel, rfl⟩ := Nat.exists_eq_add_one.mpr (Nat.zero_lt_of_lt enough)
  rfl

theorem readsBack_flag (b : Bool) : ReadsBack indent (.flag b) := by
  intro depth fuel rest enough
  obtain ⟨fuel, rfl⟩ := Nat.exists_eq_add_one.mpr (Nat.zero_lt_of_lt enough)
  cases b <;> rfl

theorem readsBack_text (s : String) : ReadsBack indent (.text s) := by
  intro depth fuel rest enough
  have longer := length_lt_length_quotedText s
  rw [chars] at enough
  obtain ⟨fuel, rfl⟩ := Nat.exists_eq_add_one.mpr (Nat.zero_lt_of_lt enough)
  have read : readText fuel (s.toList.flatMap escapeChar ++ '"' :: rest) = some (s.toList, rest) :=
    readText_flatMap_escapeChar (by omega) rest
  simp only [chars, quotedText, List.cons_append, List.append_assoc, List.nil_append]
  rw [readValue, skipSpace_cons (by decide)]
  simp [read]

/-- The items after the first one are read back up to the end of their list. -/
theorem readItems_moreItems {items : List Value}
    (each : ∀ item ∈ items, ReadsBack indent item) (depth outer fuel : Nat)
    (enough : (moreItems indent depth items).length < fuel) (rest : List Char) :
    readItems fuel (moreItems indent depth items ++ (lineBreak indent outer ++ ']' :: rest)) =
      some (items, rest) := by
  induction items generalizing fuel with
  | nil =>
    obtain ⟨fuel, rfl⟩ := Nat.exists_eq_add_one.mpr (Nat.zero_lt_of_lt enough)
    rw [moreItems, List.nil_append, readItems_append (lineBreak_space indent outer), readItems,
      skipSpace_cons (by decide)]
    rfl
  | cons item later inductionHypothesis =>
    obtain ⟨first, others⟩ := List.forall_mem_cons.mp each
    obtain ⟨fuel, rfl⟩ := Nat.exists_eq_add_one.mpr (Nat.zero_lt_of_lt enough)
    simp only [moreItems, List.length_cons, List.length_append] at enough
    have read := first depth fuel (moreItems indent depth later ++
      (lineBreak indent outer ++ ']' :: rest)) (by omega)
    have readLater := inductionHypothesis others fuel (by omega)
    simp only [moreItems, List.cons_append, List.append_assoc]
    rw [readItems, skipSpace_cons (by decide)]
    simp [readValue_append (lineBreak_space indent depth), read, readLater]

theorem readValue_list {fuel : Nat} {chars after rest : List Char} {c : Char} {later : List Char}
    {item : Value} {more : List Value} (skipped : skipSpace chars = c :: later) (further : c ≠ ']')
    (first : readValue fuel (c :: later) = some (item, after))
    (others : readItems fuel after = some (more, rest)) :
    readValue (fuel + 1) ('[' :: chars) = some (.list (item :: more), rest) := by
  rw [readValue, skipSpace_cons (by decide)]
  simp only [skipped]
  split
  · next same => exact absurd (List.cons.inj same).1 further
  · simp [first, others]

theorem readsBack_list {items : List Value} (numberless : ∀ item ∈ items, Numberless item)
    (each : ∀ item ∈ items, ReadsBack indent item) : ReadsBack indent (.list items) := by
  intro depth fuel rest enough
  obtain ⟨fuel, rfl⟩ := Nat.exists_eq_add_one.mpr (Nat.zero_lt_of_lt enough)
  cases items with
  | nil => rfl
  | cons item later =>
    obtain ⟨first, others⟩ := List.forall_mem_cons.mp each
    obtain ⟨c, more, starts, solid, further⟩ :=
      (numberless item List.mem_cons_self).exists_chars_eq_cons indent (depth + 1)
    simp only [chars, List.length_cons, List.length_append] at enough
    have read := first (depth + 1) fuel (moreItems indent (depth + 1) later ++
      (lineBreak indent depth ++ ']' :: rest)) (by omega)
    have readLater := readItems_moreItems others (depth + 1) depth fuel (by omega) rest
    simp only [chars, List.cons_append, List.append_assoc, List.nil_append]
    rw [starts, List.cons_append] at read ⊢
    refine readValue_list ?_ further read readLater
    rw [skipSpace_append (lineBreak_space indent (depth + 1)), skipSpace_cons solid]

def fieldChars (indent : Option Nat) (depth : Nat) (field : String × Value) : List Char :=
  quotedText field.1 ++ (colon indent ++ chars indent depth field.2)

theorem readField_fieldChars {field : String × Value} (reads : ReadsBack indent field.2)
    (depth fuel : Nat) (enough : (fieldChars indent depth field).length < fuel)
    (rest : List Char) :
    readField fuel (fieldChars indent depth field ++ rest) = some (field, rest) := by
  obtain ⟨name, value⟩ := field
  have longer := length_lt_length_quotedText name
  obtain ⟨fuel, rfl⟩ := Nat.exists_eq_add_one.mpr (Nat.zero_lt_of_lt enough)
  simp only [fieldChars, List.length_append] at enough
  dsimp only at reads enough
  have readName : readText fuel (name.toList.flatMap escapeChar ++
      '"' :: (':' :: (gap indent ++ (chars indent depth value ++ rest)))) =
        some (name.toList, ':' :: (gap indent ++ (chars indent depth value ++ rest))) :=
    readText_flatMap_escapeChar (by omega) _
  have read := reads depth fuel rest (by omega)
  simp only [fieldChars, quotedText, colon_eq, List.cons_append, List.append_assoc, List.nil_append]
  rw [readField, skipSpace_cons (by decide)]
  simp [readName, skipSpace_cons (show isSpace ':' = false by decide),
    readValue_append (gap_space indent), read]

/-- The fields after the first one are read back up to the end of their record. -/
theorem readFields_moreFields {fields : List (String × Value)}
    (each : ∀ field ∈ fields, ReadsBack indent field.2) (depth outer fuel : Nat)
    (enough : (moreFields indent depth fields).length < fuel) (rest : List Char) :
    readFields fuel (moreFields indent depth fields ++ (lineBreak indent outer ++ '\x7d' :: rest)) =
      some (fields, rest) := by
  induction fields generalizing fuel with
  | nil =>
    obtain ⟨fuel, rfl⟩ := Nat.exists_eq_add_one.mpr (Nat.zero_lt_of_lt enough)
    rw [moreFields, List.nil_append, readFields_append (lineBreak_space indent outer), readFields,
      skipSpace_cons (by decide)]
    rfl
  | cons field later inductionHypothesis =>
    obtain ⟨first, others⟩ := List.forall_mem_cons.mp each
    obtain ⟨fuel, rfl⟩ := Nat.exists_eq_add_one.mpr (Nat.zero_lt_of_lt enough)
    have written : moreFields indent depth (field :: later) = ',' ::
        (lineBreak indent depth ++ (fieldChars indent depth field ++
          moreFields indent depth later)) := by
      simp only [moreFields, fieldChars, List.append_assoc]
    rw [written] at enough ⊢
    simp only [List.length_cons, List.length_append] at enough
    have read := readField_fieldChars first depth fuel (by omega)
      (moreFields indent depth later ++ (lineBreak indent outer ++ '\x7d' :: rest))
    have readLater := inductionHypothesis others fuel (by omega)
    simp only [List.cons_append, List.append_assoc]
    rw [readFields, skipSpace_cons (by decide)]
    simp [readField_append (lineBreak_space indent depth), read, readLater]

theorem readValue_record {fuel : Nat} {chars after rest later : List Char}
    {field : String × Value} {more : List (String × Value)}
    (skipped : skipSpace chars = '"' :: later)
    (first : readField fuel ('"' :: later) = some (field, after))
    (others : readFields fuel after = some (more, rest)) :
    readValue (fuel + 1) ('\x7b' :: chars) = some (.record (field :: more), rest) := by
  rw [readValue, skipSpace_cons (by decide)]
  simp [skipped, first, others]

theorem readsBack_record {fields : List (String × Value)}
    (each : ∀ field ∈ fields, ReadsBack indent field.2) : ReadsBack indent (.record fields) := by
  intro depth fuel rest enough
  obtain ⟨fuel, rfl⟩ := Nat.exists_eq_add_one.mpr (Nat.zero_lt_of_lt enough)
  cases fields with
  | nil => rfl
  | cons field later =>
    obtain ⟨first, others⟩ := List.forall_mem_cons.mp each
    have written : chars indent depth (.record (field :: later)) = '\x7b' ::
        (lineBreak indent (depth + 1) ++ (fieldChars indent (depth + 1) field ++
          (moreFields indent (depth + 1) later ++ (lineBreak indent depth ++ ['\x7d'])))) := by
      simp only [chars, fieldChars, List.append_assoc]
    rw [written] at enough ⊢
    simp only [List.length_cons, List.length_append] at enough
    have read := readField_fieldChars first (depth + 1) fuel (by omega)
      (moreFields indent (depth + 1) later ++ (lineBreak indent depth ++ '\x7d' :: rest))
    have readLater := readFields_moreFields others (depth + 1) depth fuel (by omega) rest
    obtain ⟨more, starts⟩ : ∃ more, fieldChars indent (depth + 1) field = '"' :: more := ⟨_, rfl⟩
    simp only [List.cons_append, List.append_assoc, List.nil_append]
    rw [starts, List.cons_append] at read ⊢
    refine readValue_record ?_ read readLater
    rw [skipSpace_append (lineBreak_space indent (depth + 1)), skipSpace_cons (by decide)]

/-- A value without numbers is read back. -/
theorem Numberless.readsBack {value : Value} (numberless : Numberless value) :
    ReadsBack indent value := by
  induction numberless with
  | null => exact readsBack_null
  | flag b => exact readsBack_flag b
  | text s => exact readsBack_text s
  | list each inductionHypothesis => exact readsBack_list each inductionHypothesis
  | record each inductionHypothesis => exact readsBack_record inductionHypothesis

/-- A value without numbers that was written is read back. -/
theorem read?_write {value : Value} (numberless : Numberless value) (indent : Option Nat) :
    read? (write indent value) = some value := by
  have read : readValue (2 * (chars indent 0 value).length + 2) (chars indent 0 value ++ []) =
      some (value, []) := numberless.readsBack 0 _ [] (by omega)
  rw [List.append_nil] at read
  simp only [read?, write, String.toList_ofList, read]
  rfl

end Checkup.Json
