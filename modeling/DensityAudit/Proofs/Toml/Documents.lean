import DensityAudit.Proofs.Toml.Quoted
import DensityAudit.Proofs.Toml.Scalar
import DensityAudit.Toml.Library

/-!
# Documents are read back

A written value is read back whatever ends it (`Written`): numbers and booleans, strings, and arrays of such values on one
line. A line assigns the value to its key, so a document of lines with different keys has the entries that were written,
in their order (`document?_linesOf`). A library is faithful if it reads back each such record that it is to write, in
whatever form (`Library.Faithful`), and the grammar is (`faithful_grammar`).
-/

namespace DensityAudit.Toml

/-! ### Written values -/

/-- What stands behind a value: the end of its line, or what goes on in an array. -/
def EndsValue (rest : List Char) : Prop := ∀ c ∈ rest.head?, c = '\n' ∨ c = ',' ∨ c = ']'

/-- A character that can begin a value: nothing that a reader skips, and not the end of an array. -/
def beginsValue (c : Char) : Bool := !isBlank c && c != '\n' && c != '\r' && c != '#' && c != ']'

/-- The text is a value that is read back from it, nested in arrays at most `depth` deep. -/
structure Written (depth : ℕ) (text : List Char) (v : Value) : Prop where
  begins : ∃ c more, text = c :: more ∧ beginsValue c = true
  read : ∀ {rest}, EndsValue rest → value? depth (text ++ rest) = some (v, rest)

namespace EndsValue

variable {rest : List Char}

theorem newline (more : List Char) : EndsValue ('\n' :: more) := by
  rintro c ⟨⟩
  exact .inl rfl

theorem comma (more : List Char) : EndsValue (',' :: more) := by
  rintro c ⟨⟩
  exact .inr (.inl rfl)

theorem bracket (more : List Char) : EndsValue (']' :: more) := by
  rintro c ⟨⟩
  exact .inr (.inr rfl)

/-- What stands behind a value does not continue it. -/
theorem not_isScalarChar (ends : EndsValue rest) : ∀ c ∈ rest.head?, isScalarChar c = false := by
  intro c mem
  rcases ends c mem with rfl | rfl | rfl <;> rfl

theorem head?_ne (ends : EndsValue rest) {a : Char} (other : a ≠ '\n' ∧ a ≠ ',' ∧ a ≠ ']') : rest.head? ≠ some a := by
  intro same
  rcases ends a same with rfl | rfl | rfl
  · exact other.1 rfl
  · exact other.2.1 rfl
  · exact other.2.2 rfl

end EndsValue

theorem beginsValue_of_isScalarChar {c : Char} (scalar : isScalarChar c = true) : beginsValue c = true := by
  by_contra skipped
  have named : c = ' ' ∨ c = '\t' ∨ c = '\n' ∨ c = '\r' ∨ c = '#' ∨ c = ']' := by
    simp only [beginsValue, isBlank, Bool.and_eq_true, Bool.not_eq_true', Bool.or_eq_false_iff, beq_eq_false_iff_ne,
      bne_iff_ne] at skipped
    tauto
  rcases named with rfl | rfl | rfl | rfl | rfl | rfl <;> cases scalar

/-- A text that spells a value is a written value. -/
theorem Spells.written {text : List Char} {v : Value} (spells : Spells text v) (depth : ℕ) : Written depth text v := by
  cases text with
  | nil => cases spells.read
  | cons c more =>
    have scalar := spells.chars c List.mem_cons_self
    refine ⟨⟨c, more, rfl, beginsValue_of_isScalarChar scalar⟩, fun {rest} ends => ?_⟩
    have read := spells.scalarFront?_eq ends.not_isScalarChar
    rw [List.cons_append] at read ⊢
    rw [value?.eq_def]
    dsimp only
    -- no other kind of value begins with a character of an unquoted one
    split
    case h_5 => exact read
    all_goals
      rename_i other
      cases other
      cases scalar

/-- The written form of a string is a value at any depth. -/
theorem written_stringChars (depth : ℕ) (text : String) : Written depth (stringChars text.toList) (.string text) := by
  have quote : ∃ c more, stringChars text.toList = c :: more ∧ (c = '"' ∨ c = '\'') := by
    rw [stringChars]
    cases StringForm.ofText text.toList with
    | basic => exact ⟨_, _, rfl, .inl rfl⟩
    | literal => exact ⟨_, _, rfl, .inr rfl⟩
    | basicLines => exact ⟨_, _, rfl, .inl rfl⟩
    | literalLines => exact ⟨_, _, rfl, .inr rfl⟩
  obtain ⟨c, more, form, quote⟩ := quote
  have read {rest} (ends : EndsValue rest) : quoted? (c :: (more ++ rest)) = some (text.toList, rest) := by
    rw [← List.cons_append, ← form]
    exact quoted?_stringChars text.toList (ends.head?_ne (by decide)) (ends.head?_ne (by decide))
  rw [form]
  rcases quote with rfl | rfl
  · refine ⟨⟨_, _, rfl, rfl⟩, fun ends => ?_⟩
    rw [List.cons_append, value?, read ends, Option.map_some]
    simp only [String.ofList_toList]
  · refine ⟨⟨_, _, rfl, rfl⟩, fun ends => ?_⟩
    rw [List.cons_append, value?, read ends, Option.map_some]
    simp only [String.ofList_toList]

/-! ### Arrays -/

section Begins

variable {c : Char} (begins : beginsValue c = true)

include begins

theorem isBlank_of_beginsValue : isBlank c = false := by
  rw [Bool.eq_false_iff]
  intro blank
  rw [beginsValue, blank] at begins
  cases begins

/-- Nothing is left out in front of a value. -/
theorem skipBlanks_of_beginsValue (s : List Char) : skipBlanks (c :: s) = c :: s :=
  List.dropWhile_cons_of_neg (Bool.eq_false_iff.1 (isBlank_of_beginsValue begins))

theorem newline?_of_beginsValue (s : List Char) : newline? (c :: s) = none := by
  refine newline?_cons ?_ ?_ s
  all_goals
    rintro rfl
    cases begins

/-- Of the blanks, lines and comments before a value only blanks were there. -/
theorem skipLines?_of_beginsValue {s more : List Char} (skipped : skipBlanks s = c :: more) :
    skipLines? s = some (c :: more) := by
  rw [skipLines?.eq_def, skipped]
  split
  case h_1 same =>
    cases same
    cases begins
  case h_2 => rw [newline?_of_beginsValue begins]

end Begins

variable {depth : ℕ} {text : List Char} {v : Value}

theorem Written.skipBlanks_append (written : Written depth text v) (rest : List Char) :
    skipBlanks (text ++ rest) = text ++ rest := by
  obtain ⟨c, more, rfl, begins⟩ := written.begins
  exact skipBlanks_of_beginsValue begins _

/-- A written value at the front of an array is its first item. -/
theorem Written.arrayTail?_eq (written : Written depth text v) {s rest : List Char} (skipped : skipBlanks s = text ++ rest)
    (ends : EndsValue rest) : arrayTail? (value? depth) s =
      (skipLines? rest).bind fun rest =>
        match rest with
        | ']' :: left => some ([v], left)
        | ',' :: more =>
          if more.length < s.length then
            (arrayTail? (value? depth) more).map fun (values, left) => (v :: values, left)
          else none
        | _ => none := by
  have read := written.read ends
  obtain ⟨c, more, rfl, begins⟩ := written.begins
  rw [List.cons_append] at read skipped
  rw [arrayTail?.eq_def, skipLines?_of_beginsValue begins skipped, Option.bind_some]
  split
  case h_1 same =>
    cases same
    cases begins
  case h_2 => exact congrArg (Option.bind · _) read

theorem skipLines?_bracket (rest : List Char) : skipLines? (']' :: rest) = some (']' :: rest) := by
  rw [skipLines?.eq_def]
  rfl

theorem skipLines?_comma (rest : List Char) : skipLines? (',' :: rest) = some (',' :: rest) :=
  skipLines?_of_beginsValue rfl rfl

theorem skipBlanks_intercalate (first : Written depth text v) (items : List (List Char)) (rest : List Char) :
    skipBlanks ((", ".toList).intercalate (text :: items) ++ rest) = (", ".toList).intercalate (text :: items) ++ rest := by
  have form : ∃ more, (", ".toList).intercalate (text :: items) = text ++ more := by
    cases items with
    | nil => exact ⟨[], by simp [List.intercalate]⟩
    | cons second items =>
      exact ⟨(", ".toList) ++ (", ".toList).intercalate (second :: items), by simp [List.intercalate]⟩
  obtain ⟨more, form⟩ := form
  rw [form, List.append_assoc, first.skipBlanks_append]

/-- The items of an array are read one after another, each up to the comma or the bracket behind it. -/
theorem arrayTail?_items {items : List (List Char)} {values : List Value}
    (written : List.Forall₂ (Written depth) items values) (nonempty : items ≠ []) {s rest : List Char}
    (skipped : skipBlanks s = (", ".toList).intercalate items ++ ']' :: rest) :
    arrayTail? (value? depth) s = some (values, rest) := by
  induction written generalizing s with
  | nil => exact absurd rfl nonempty
  | @cons text v items values first others ih =>
    cases others with
    | nil =>
      have last : skipBlanks s = text ++ ']' :: rest := by simpa [List.intercalate] using skipped
      rw [first.arrayTail?_eq last (.bracket rest), skipLines?_bracket]
      rfl
    | @cons text' v' items values second others =>
      have next : skipBlanks s = text ++ ',' :: ' ' :: ((", ".toList).intercalate (text' :: items) ++ ']' :: rest) := by
        simpa [List.intercalate] using skipped
      have begins := skipBlanks_intercalate second items (']' :: rest)
      have shorter : (' ' :: ((", ".toList).intercalate (text' :: items) ++ ']' :: rest)).length < s.length := by
        have := skipBlanks_length_le s
        rw [next] at this
        simp only [List.length_append, List.length_cons] at this ⊢
        omega
      rw [first.arrayTail?_eq next (.comma _), skipLines?_comma, Option.bind_some]
      refine (if_pos shorter).trans ?_
      rw [ih (s := ' ' :: _) (List.cons_ne_nil _ _) begins]
      rfl

/-- An array of written items is written, one deeper. -/
theorem written_arrayChars {items : List (List Char)} {values : List Value}
    (written : List.Forall₂ (Written depth) items values) : Written (depth + 1) (arrayChars items) (.array values) := by
  refine ⟨⟨_, _, rfl, rfl⟩, fun {rest} _ => ?_⟩
  have read : arrayTail? (value? depth) ((", ".toList).intercalate items ++ ']' :: rest) = some (values, rest) := by
    cases written with
    | nil =>
      rw [arrayTail?.eq_def]
      exact congrArg (Option.bind · _) (skipLines?_bracket rest)
    | @cons text v items values first others =>
      exact arrayTail?_items (.cons first others) (List.cons_ne_nil _ _) (skipBlanks_intercalate first items _)
  rw [arrayChars, List.cons_append, List.cons_append, List.append_assoc, List.singleton_append, value?, read]
  rfl

theorem written_strings (depth : ℕ) (texts : List String) :
    Written (depth + 1) (arrayChars (texts.map fun text => stringChars text.toList)) (.array (texts.map .string)) := by
  apply written_arrayChars
  rw [List.forall₂_map_left_iff, List.forall₂_map_right_iff, List.forall₂_same]
  exact fun text _ => written_stringChars depth text

/-! ### Lines -/

/-- The key is written without quotes and has one part. -/
def IsBareKey (key : String) : Prop := key.toList ≠ [] ∧ ∀ c ∈ key.toList, isBareKeyChar c = true

theorem isScalarChar_of_isBareKeyChar {c : Char} (bare : isBareKeyChar c = true) : isScalarChar c = true := by
  simp only [isBareKeyChar, isScalarChar, Bool.or_eq_true] at bare ⊢
  tauto

/-- A key without quotes stands for itself. -/
theorem keyPart?_eq {key : List Char} (nonempty : key ≠ []) (bare : ∀ c ∈ key, isBareKeyChar c = true) (rest : List Char) :
    keyPart? (key ++ ' ' :: rest) = some (key, ' ' :: rest) := by
  have stop : ∀ c ∈ (' ' :: rest).head?, isBareKeyChar c = false := by
    rintro c ⟨⟩
    rfl
  have taken := Decimal.takeWhile_append_stop bare stop
  have dropped := Decimal.dropWhile_append_stop bare stop
  obtain ⟨c, more, rfl⟩ := List.exists_cons_of_ne_nil nonempty
  have first := bare c List.mem_cons_self
  rw [List.cons_append] at taken dropped ⊢
  rw [keyPart?.eq_def]
  split
  case h_1 same =>
    cases same
    cases first
  case h_2 same =>
    cases same
    cases first
  case h_3 =>
    rw [taken, dropped]
    rfl

namespace IsBareKey

variable {key : String}

theorem begins (bare : IsBareKey key) : ∃ c more, key.toList = c :: more ∧ isBareKeyChar c = true := by
  obtain ⟨c, more, form⟩ := List.exists_cons_of_ne_nil bare.1
  exact ⟨c, more, form, bare.2 c (form ▸ List.mem_cons_self)⟩

theorem skipBlanks_append (bare : IsBareKey key) (rest : List Char) :
    skipBlanks (key.toList ++ rest) = key.toList ++ rest := by
  obtain ⟨c, more, form, first⟩ := bare.begins
  rw [form]
  exact skipBlanks_of_beginsValue (beginsValue_of_isScalarChar (isScalarChar_of_isBareKeyChar first)) _

/-- A key without quotes is read up to the equals sign. -/
theorem keyPath?_eq (bare : IsBareKey key) (limit : ℕ) (rest : List Char) :
    keyPath? (limit + 1) (key.toList ++ ' ' :: '=' :: rest) = some ([key], '=' :: rest) := by
  rw [keyPath?, bare.skipBlanks_append, keyPart?_eq bare.1 bare.2, Option.bind_some]
  have skipped : skipBlanks (' ' :: '=' :: rest) = '=' :: rest := rfl
  simp only [skipped, String.ofList_toList]
  rfl

/-- A key, an equals sign and a written value are read back as an assignment. -/
theorem statement?_eq (bare : IsBareKey key) (written : Written depthLimit text v) {rest : List Char}
    (ends : EndsValue rest) :
    statement? (key.toList ++ ' ' :: '=' :: ' ' :: (text ++ rest)) = some (.assignment [key] v, rest) := by
  have path := bare.keyPath?_eq 78 (' ' :: (text ++ rest))
  have skipped : skipBlanks (' ' :: (text ++ rest)) = text ++ rest := written.skipBlanks_append rest
  obtain ⟨c, more, form, first⟩ := bare.begins
  rw [form, List.cons_append] at path ⊢
  rw [statement?.eq_def]
  split
  case h_1 same =>
    obtain ⟨rfl, -⟩ := List.cons.inj same
    cases first
  case h_2 same =>
    obtain ⟨rfl, -⟩ := List.cons.inj same
    cases first
  case h_3 =>
    rw [depthLimit, path, Option.bind_some]
    show (value? depthLimit (skipBlanks (' ' :: (text ++ rest)))).map _ = _
    rw [skipped, written.read ends]
    rfl

/-- A line is no end of a line. -/
theorem endOfLine?_eq_none (bare : IsBareKey key) (rest : List Char) : endOfLine? (key.toList ++ rest) = none := by
  rw [endOfLine?, bare.skipBlanks_append]
  obtain ⟨c, more, form, first⟩ := bare.begins
  have begins := beginsValue_of_isScalarChar (isScalarChar_of_isBareKeyChar first)
  have uncommented : skipComment (key.toList ++ rest) = key.toList ++ rest := by
    rw [form, List.cons_append, skipComment.eq_def]
    split
    case h_1 same =>
      cases same
      cases first
    case h_2 => rfl
  rw [uncommented, form]
  exact newline?_of_beginsValue begins _

/-- The statement of a line is the assignment that was written, and the reader goes on with the next line. -/
theorem statements?_lineChars (bare : IsBareKey key) (written : Written depthLimit text v) (rest : List Char) :
    statements? (lineChars key text ++ rest) = (statements? rest).map (.assignment [key] v :: ·) := by
  have line : lineChars key text ++ rest = key.toList ++ ' ' :: '=' :: ' ' :: (text ++ '\n' :: rest) := by
    simp [lineChars]
  have shorter : rest.length < (key.toList ++ ' ' :: '=' :: ' ' :: (text ++ '\n' :: rest)).length := by
    simp only [List.length_append, List.length_cons]
    omega
  have ended : endOfLine? ('\n' :: rest) = some rest := rfl
  rw [line, statements?, bare.skipBlanks_append]
  split
  case h_1 empty => simp at empty
  case h_2 =>
    rw [bare.endOfLine?_eq_none]
    dsimp only
    rw [bare.statement?_eq written (.newline rest), Option.bind_some, ended, Option.bind_some, if_pos shorter]

end IsBareKey

/-! ### Fields -/

namespace Datum

/-- What a document can hold for a field: a double that is defined, and a count of sixty-four bits with a sign. Of booleans
and texts there is nothing to ask. -/
def Writable : Datum → Prop
  | float x => x.isNaN = false
  | count n => n ≤ 9223372036854775807
  | _ => True

variable {datum : Datum}

theorem Writable.fits (writable : datum.Writable) : datum.fits = true := by
  cases datum with
  | count n => exact decide_eq_true writable
  | _ => rfl

/-- The written form of a datum is read back as its value. -/
theorem Writable.written (writable : datum.Writable) : Written depthLimit datum.chars datum.value := by
  cases datum with
  | float x => exact (spells_floatChars writable).written _
  | count n => exact (spells_natChars writable).written _
  | boolean b => exact (spells_booleanChars b).written _
  | string text => exact written_stringChars _ text
  | strings texts => exact written_strings _ texts

end Datum

/-- The fields have keys that are written as they are, different from one another, and data that a document can hold. -/
structure WellFormed (fields : List Field) : Prop where
  bare : ∀ key ∈ fields.map Field.key, IsBareKey key
  writable : ∀ field ∈ fields, field.datum.Writable
  distinct : (fields.map Field.key).Nodup

/-- The entries of a document are the fields of a record, in whatever order. -/
structure Holds (entries : Entries) (fields : List Field) : Prop where
  held : ∀ field ∈ fields, entries.get? field.key = some field.datum.value
  others : ∀ key ∉ fields.map Field.key, entries.get? key = none

/-- What is written for a record is read back as its fields. -/
def Library.Faithful (library : Library) : Prop :=
  ∀ fields, WellFormed fields → ∃ text entries,
    library.write? fields = some text ∧ library.read? text = some entries ∧ Holds entries fields

/-! ### Documents -/

def assignments (fields : List Field) : List Statement := fields.map fun field => .assignment [field.key] field.datum.value

def entriesOf (fields : List Field) : Entries := fields.map fun field => (field.key, field.datum.value)

/-- The lines of well-formed fields are read back as their assignments. -/
theorem statements?_fields {fields : List Field} (well : WellFormed fields) :
    statements? (fields.flatMap Field.chars) = some (assignments fields) := by
  obtain ⟨bare, writable, -⟩ := well
  induction fields with
  | nil =>
    rw [List.flatMap_nil, statements?]
    rfl
  | cons field fields ih =>
    rw [List.map_cons, List.forall_mem_cons] at bare
    rw [List.forall_mem_cons] at writable
    rw [List.flatMap_cons, Field.chars, bare.1.statements?_lineChars writable.1.written, ih bare.2 writable.2]
    rfl

/-- A key that no entry has is added behind the others. -/
theorem Entries.set_eq_append {entries : Entries} {key : String} (new : ∀ entry ∈ entries, entry.1 ≠ key) (value : Value) :
    entries.set key value = entries ++ [(key, value)] := by
  induction entries with
  | nil => rfl
  | cons entry rest ih =>
    rw [List.forall_mem_cons] at new
    rw [Entries.set, if_neg new.1, ih new.2]
    rfl

theorem Entries.get?_eq_none {entries : Entries} {key : String} (new : ∀ entry ∈ entries, entry.1 ≠ key) :
    entries.get? key = none := by
  rw [Entries.get?, Option.map_eq_none_iff, List.find?_eq_none]
  exact fun entry mem => by simpa using new entry mem

/-- An assignment to a new key adds an entry. -/
theorem add_assignment {done : Entries} {key : String} (new : ∀ entry ∈ done, entry.1 ≠ key) (value : Value) :
    Draft.add ⟨done, []⟩ (.assignment [key] value) = some ⟨done ++ [(key, value)], []⟩ := by
  have added : addKey key value .header done = some (done ++ [(key, value)]) := by
    rw [addKey, Entries.get?_eq_none new, Entries.set_eq_append new]
    rfl
  show (addKey key value .header done).map _ = _
  rw [added]
  rfl

/-- Assignments to new keys are added one after another. -/
theorem foldlM_add {fields : List Field} (distinct : (fields.map Field.key).Nodup) {done : Entries}
    (new : ∀ field ∈ fields, ∀ entry ∈ done, entry.1 ≠ field.key) :
    (assignments fields).foldlM Draft.add ⟨done, []⟩ = some ⟨done ++ entriesOf fields, []⟩ := by
  induction fields generalizing done with
  | nil => simp [assignments, entriesOf]
  | cons field fields ih =>
    rw [List.map_cons, List.nodup_cons] at distinct
    rw [List.forall_mem_cons] at new
    have further : ∀ other ∈ fields, ∀ entry ∈ done ++ [(field.key, field.datum.value)], entry.1 ≠ other.key := by
      intro other mem entry old
      rcases List.mem_append.1 old with old | last
      · exact new.2 other mem entry old
      · rw [List.mem_singleton.1 last]
        exact fun same => distinct.1 (List.mem_map.2 ⟨other, mem, same.symm⟩)
    have rest := ih distinct.2 further
    rw [assignments, List.map_cons, List.foldlM_cons, add_assignment new.1]
    rw [assignments] at rest
    simpa [entriesOf] using rest

/-- The entries of a document are its lines, each with its value. -/
theorem document?_linesOf {fields : List Field} (well : WellFormed fields) :
    document? (linesOf fields) = some (entriesOf fields) := by
  have unmarked : skipMark (fields.flatMap Field.chars) = fields.flatMap Field.chars := by
    cases fields with
    | nil => rfl
    | cons field fields =>
      obtain ⟨c, more, form, first⟩ := (well.bare field.key List.mem_cons_self).begins
      rw [List.flatMap_cons, Field.chars, lineChars, form, skipMark.eq_def]
      split
      case h_1 same =>
        obtain ⟨rfl, -⟩ := List.cons.inj same
        cases first
      case h_2 => rfl
  have built : (assignments fields).foldlM Draft.add ⟨[], []⟩ = some ⟨entriesOf fields, []⟩ :=
    foldlM_add well.distinct fun _ _ _ mem => absurd mem List.not_mem_nil
  rw [document?, linesOf, String.toList_ofList, unmarked, statements?_fields well, Option.bind_some, built]
  rfl

/-- With different keys each entry is found by its key. -/
theorem holds_entriesOf {fields : List Field} (distinct : (fields.map Field.key).Nodup) : Holds (entriesOf fields) fields := by
  refine ⟨?_, fun key unknown => Entries.get?_eq_none fun entry mem same => ?_⟩
  · induction fields with
    | nil => exact fun _ mem => absurd mem List.not_mem_nil
    | cons first fields ih =>
      rw [List.map_cons, List.nodup_cons] at distinct
      rw [List.forall_mem_cons]
      refine ⟨by simp [entriesOf, Entries.get?], fun field mem => ?_⟩
      have other : first.key ≠ field.key := fun same => distinct.1 (List.mem_map.2 ⟨field, mem, same.symm⟩)
      have found := ih distinct.2 field mem
      rw [Entries.get?, entriesOf] at found
      rwa [Entries.get?, entriesOf, List.map_cons, List.find?_cons_of_neg (by simpa using other)]
  · obtain ⟨field, written, rfl⟩ := List.mem_map.1 mem
    exact unknown (same ▸ List.mem_map_of_mem written)

/-- Fields that a document can hold are written line by line. -/
theorem write?_grammar {fields : List Field} (writable : ∀ field ∈ fields, field.datum.Writable) :
    Library.grammar.write? fields = some (linesOf fields) :=
  if_pos (List.all_eq_true.2 fun field mem => (writable field mem).fits)

/-- The grammar reads back every record that its lines can hold. -/
theorem faithful_grammar : Library.grammar.Faithful := fun fields well =>
  ⟨linesOf fields, entriesOf fields, write?_grammar well.writable, document?_linesOf well, holds_entriesOf well.distinct⟩

end DensityAudit.Toml
