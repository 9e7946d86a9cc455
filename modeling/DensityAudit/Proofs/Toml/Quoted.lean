import Mathlib
import DensityAudit.Toml.Quoted
import DensityAudit.Toml.Writer

/-!
# Strings are read back

Whatever its characters are, a text that was written as a string is read back from it, and nothing that follows the string
is touched (`quoted?_stringChars`). Each form has its own argument. Between quotes on one line every character is read by
itself. In the forms of several lines up to two quotes in a row are characters of the text, so the induction carries the
quotes that were read last (`basicLinesTail?_escapeLines`, `literalLinesTail?_of_plain`).
-/

namespace DensityAudit.Toml

/-- Puts characters in front of what was read. -/
def prepend (front : List Char) : List Char × List Char → List Char × List Char
  | (text, left) => (front ++ text, left)

theorem map_prepend_prepend (a b : List Char) (o : Option (List Char × List Char)) :
    (o.map (prepend b)).map (prepend a) = o.map (prepend (a ++ b)) := by
  cases o with
  | none => rfl
  | some read => simp [prepend]

/-! ### Escapes -/

/-- The code of a control character has four hexadecimal digits, which are read back. -/
theorem hexValue?_hexDigits4 : ∀ n < 128, (hexDigits4 n).length = 4 ∧ hexValue? (hexDigits4 n) = some n := by
  decide

theorem codePoint?_hexDigits4 {c : Char} (low : c.toNat < 128) (rest : List Char) :
    codePoint? 4 (hexDigits4 c.toNat ++ rest) = some (c, rest) := by
  obtain ⟨length, value⟩ := hexValue?_hexDigits4 c.toNat low
  have taken : (hexDigits4 c.toNat ++ rest).take 4 = hexDigits4 c.toNat := by
    rw [List.take_append_of_le_length length.ge, List.take_of_length_le length.le]
  have dropped : (hexDigits4 c.toNat ++ rest).drop 4 = rest := by
    rw [List.drop_append_of_le_length length.ge, List.drop_of_length_le length.le, List.nil_append]
  rw [codePoint?, taken, dropped, length, value, if_neg (by decide), Option.bind_some,
    if_pos (show c.toNat.isValidChar from c.valid), Char.ofNat_toNat]

/-- What stands behind a backslash for a character, on one line or in a text of several. -/
structure IsEscape (c : Char) (code : List Char) : Prop where
  read : ∀ rest, escape? (code ++ rest) = some (c, rest)
  continues : ∀ rest, lineContinuation? (code ++ rest) = none

theorem isPlain_of_not_needsEscape {c : Char} (plain : needsEscape c = false) (other : c ≠ '\n') : isPlain c = true := by
  by_cases tab : c = '\t'
  · rw [tab]
    rfl
  · rw [needsEscape, bne_iff_ne.2 tab, bne_iff_ne.2 other, Bool.true_and, Bool.true_and, Bool.or_eq_false_iff,
      decide_eq_false_iff_not, beq_eq_false_iff_ne] at plain
    rw [isPlain, Bool.or_eq_true, Bool.and_eq_true, decide_eq_true_eq, bne_iff_ne]
    exact .inr ⟨by omega, plain.2⟩

/-- A written character is an escape, or itself if it needs none. -/
theorem escapeChar_cases (c : Char) :
    (∃ code, escapeChar c = '\\' :: code ∧ IsEscape c code) ∨
      escapeChar c = [c] ∧ c ≠ '"' ∧ c ≠ '\\' ∧ isPlain c = true := by
  rw [escapeChar]
  split_ifs
  iterate 7
    case pos named =>
      subst named
      exact .inl ⟨_, rfl, fun _ => rfl, fun _ => rfl⟩
  case pos control =>
    have low : c.toNat < 128 := by
      rw [needsEscape, Bool.and_eq_true, Bool.or_eq_true, decide_eq_true_eq, beq_iff_eq] at control
      omega
    refine .inl ⟨_, rfl, fun rest => ?_, fun _ => rfl⟩
    exact codePoint?_hexDigits4 low rest
  case neg newline _ _ quote backslash plain =>
    exact .inr ⟨rfl, quote, backslash, isPlain_of_not_needsEscape (Bool.eq_false_iff.2 plain) newline⟩

/-! ### Strings on one line -/

theorem basicTail?_plain {c : Char} (quote : c ≠ '"') (backslash : c ≠ '\\') (plain : isPlain c = true) (s : List Char) :
    basicTail? (c :: s) = (basicTail? s).map (prepend [c]) := by
  rw [basicTail?.eq_def]
  split
  case h_1 same => cases same
  case h_2 same => exact absurd (List.cons.inj same).1 quote
  case h_3 same => exact absurd (List.cons.inj same).1 backslash
  case h_4 same =>
    cases same
    rw [if_pos plain]
    rfl

theorem basicTail?_escape {c : Char} {code : List Char} (escape : IsEscape c code) (s : List Char) :
    basicTail? ('\\' :: code ++ s) = (basicTail? s).map (prepend [c]) := by
  rw [List.cons_append, basicTail?]
  split
  case h_1 read =>
    rw [escape.read] at read
    cases read
    rfl
  case h_2 read =>
    rw [escape.read] at read
    cases read

/-- An escaped character is read back. -/
theorem basicTail?_escapeChar (c : Char) (s : List Char) :
    basicTail? (escapeChar c ++ s) = (basicTail? s).map (prepend [c]) := by
  rcases escapeChar_cases c with ⟨code, form, escape⟩ | ⟨form, quote, backslash, plain⟩ <;> rw [form]
  · exact basicTail?_escape escape s
  · exact basicTail?_plain quote backslash plain s

/-- A text of escaped characters is read up to the closing quote. -/
theorem basicTail?_flatMap (text rest : List Char) :
    basicTail? (text.flatMap escapeChar ++ '"' :: rest) = some (text, rest) := by
  induction text with
  | nil => rw [List.flatMap_nil, List.nil_append, basicTail?]
  | cons c text ih =>
    rw [List.flatMap_cons, List.append_assoc, basicTail?_escapeChar, ih]
    rfl

theorem literalTail?_of_plain {text : List Char} (plain : ∀ c ∈ text, isPlain c = true ∧ c ≠ '\'') (rest : List Char) :
    literalTail? (text ++ '\'' :: rest) = some (text, rest) := by
  induction text with
  | nil => rfl
  | cons c text ih =>
    obtain ⟨⟨allowed, quote⟩, others⟩ := List.forall_mem_cons.1 plain
    rw [List.cons_append, literalTail?.eq_def]
    split
    case h_1 same => cases same
    case h_2 same => exact absurd (List.cons.inj same).1 quote
    case h_3 same =>
      cases same
      rw [if_pos allowed, ih others]
      rfl

/-! ### Runs of quotes -/

/-- A run of quotes is as long as it is. -/
theorem not_replicate_isPrefix {a : Char} {s : List Char} (other : s.head? ≠ some a) {q k : ℕ} (less : q < k) :
    ¬ List.replicate k a <+: List.replicate q a ++ s := by
  induction q generalizing k with
  | zero =>
    obtain ⟨k, rfl⟩ := Nat.exists_eq_add_of_lt less
    rintro ⟨more, rfl⟩
    exact other (by simp [List.replicate_succ])
  | succ q ih =>
    obtain ⟨k, rfl⟩ : ∃ l, k = l + 1 := ⟨k - 1, by omega⟩
    exact fun starts => ih (by omega) (List.cons_prefix_cons.1 starts).2

theorem head?_cons_ne {a d : Char} (other : d ≠ a) (s : List Char) : (d :: s).head? ≠ some a := fun same =>
  other (Option.some.inj same)

/-- If a reader takes a quote for a character wherever the quotes do not end the text, it does so for up to two of them
before another character. -/
theorem read_quotes {read : List Char → Option (List Char × List Char)} {a : Char}
    (single : ∀ s, ¬ List.replicate 3 a <+: a :: s → read (a :: s) = (read s).map (prepend [a])) {q : ℕ} (few : q ≤ 2)
    {s : List Char} (other : s.head? ≠ some a) :
    read (List.replicate q a ++ s) = (read s).map (prepend (List.replicate q a)) := by
  induction q with
  | zero => exact Option.map_id'.symm
  | succ q ih =>
    have inside : ¬ List.replicate 3 a <+: a :: (List.replicate q a ++ s) :=
      not_replicate_isPrefix other (show q + 1 < 3 by omega)
    rw [List.replicate_succ, List.cons_append, single _ inside, ih (by omega), map_prepend_prepend]
    rfl

/-! ### Strings of several lines between double quotes -/

theorem basicLinesTail?_plain {c : Char} (plain : isPlain c = true ∨ c = '\n') (backslash : c ≠ '\\') {s : List Char}
    (inside : ¬ List.replicate 3 '"' <+: c :: s) : basicLinesTail? (c :: s) = (basicLinesTail? s).map (prepend [c]) := by
  rw [basicLinesTail?.eq_def]
  split
  case h_1 same => cases same
  case h_2 same => exact absurd ⟨_, same.symm⟩ inside
  case h_3 same => exact absurd ⟨_, same.symm⟩ inside
  case h_4 same => exact absurd ⟨_, same.symm⟩ inside
  case h_5 same =>
    cases same
    exact absurd plain (by decide)
  case h_6 same => exact absurd (List.cons.inj same).1 backslash
  case h_7 same =>
    cases same
    rw [if_pos]
    · rfl
    · rwa [Bool.or_eq_true, beq_iff_eq]

/-- Up to two quotes stand for themselves between triple ones. -/
theorem basicLinesTail?_quotes {q : ℕ} (few : q ≤ 2) {s : List Char} (other : s.head? ≠ some '"') :
    basicLinesTail? (List.replicate q '"' ++ s) = (basicLinesTail? s).map (prepend (List.replicate q '"')) :=
  read_quotes (fun _ inside => basicLinesTail?_plain (.inl rfl) (by decide) inside) few other

theorem basicLinesTail?_escape {c : Char} {code : List Char} (escape : IsEscape c code) (s : List Char) :
    basicLinesTail? ('\\' :: code ++ s) = (basicLinesTail? s).map (prepend [c]) := by
  rw [List.cons_append, basicLinesTail?]
  split
  case h_1 next =>
    rw [escape.continues] at next
    cases next
  case h_2 =>
    split
    case h_1 read =>
      rw [escape.read] at read
      cases read
      rfl
    case h_2 read =>
      rw [escape.read] at read
      cases read

/-- Quotes before a character that is not one of them are read, and then that character. -/
theorem basicLinesTail?_quotes_escapeChar {q : ℕ} (few : q ≤ 2) (c : Char) (s : List Char) :
    basicLinesTail? (List.replicate q '"' ++ (escapeChar c ++ s)) =
      (basicLinesTail? s).map (prepend (List.replicate q '"' ++ [c])) := by
  rcases escapeChar_cases c with ⟨code, form, escape⟩ | ⟨form, quote, backslash, plain⟩ <;> rw [form]
  · have read := basicLinesTail?_escape escape s
    rw [List.cons_append] at read ⊢
    rw [basicLinesTail?_quotes few (head?_cons_ne (by decide) _), read, map_prepend_prepend]
  · have other := head?_cons_ne quote s
    have inside : ¬ List.replicate 3 '"' <+: c :: s := not_replicate_isPrefix other (show 0 < 3 by decide)
    rw [List.singleton_append, basicLinesTail?_quotes few other, basicLinesTail?_plain (.inl plain) backslash inside,
      map_prepend_prepend]

/-- Quotes right before the three that end the text belong to it. -/
theorem basicLinesTail?_end {q : ℕ} (few : q ≤ 2) {rest : List Char} (stop : rest.head? ≠ some '"') :
    basicLinesTail? (List.replicate q '"' ++ (List.replicate 3 '"' ++ rest)) = some (List.replicate q '"', rest) := by
  have others : ∀ more, rest ≠ '"' :: more := by
    rintro more rfl
    exact stop rfl
  interval_cases q <;> simp [List.replicate, basicLinesTail?, others]

/-- Of the text between triple quotes `q` quotes were read last, and they are counted together with those that come. -/
theorem basicLinesTail?_escapeLines {q : ℕ} (few : q ≤ 2) (text : List Char) {rest : List Char}
    (stop : rest.head? ≠ some '"') :
    basicLinesTail? (List.replicate q '"' ++ (escapeLines q text ++ (List.replicate 3 '"' ++ rest))) =
      some (List.replicate q '"' ++ text, rest) := by
  induction text generalizing q with
  | nil =>
    rw [escapeLines, List.nil_append, List.append_nil]
    exact basicLinesTail?_end few stop
  | cons c text ih =>
    have start := ih (Nat.zero_le 2)
    rw [List.replicate_zero, List.nil_append, List.nil_append] at start
    rw [escapeLines]
    split_ifs with quote more newline
    · -- a quote is not read by itself: it joins the run in front of it
      have counted := ih (q := q + 1) (by omega)
      rw [List.replicate_succ', List.append_assoc, List.append_assoc] at counted
      rw [quote]
      exact counted
    · -- the third quote in a row is escaped, and so ends the run as any other character does
      have escaped : '\\' :: '"' :: escapeLines 0 text = escapeChar '"' ++ escapeLines 0 text := rfl
      rw [quote, escaped, List.append_assoc, basicLinesTail?_quotes_escapeChar few, start]
      simp [prepend]
    · have other : ('\n' :: (escapeLines 0 text ++ (List.replicate 3 '"' ++ rest))).head? ≠ some '"' :=
        head?_cons_ne (by decide) _
      have inside := not_replicate_isPrefix other (show 0 < 3 by decide)
      rw [newline, List.cons_append, basicLinesTail?_quotes few other, basicLinesTail?_plain (.inr rfl) (by decide) inside,
        start, map_prepend_prepend]
      simp [prepend]
    · rw [List.append_assoc, basicLinesTail?_quotes_escapeChar few, start]
      simp [prepend]

/-! ### Strings of several lines between single quotes -/

theorem literalLinesTail?_plain {c : Char} (plain : isPlain c = true ∨ c = '\n') {s : List Char}
    (inside : ¬ List.replicate 3 '\'' <+: c :: s) : literalLinesTail? (c :: s) = (literalLinesTail? s).map (prepend [c]) := by
  rw [literalLinesTail?.eq_def]
  split
  case h_1 same => cases same
  case h_2 same => exact absurd ⟨_, same.symm⟩ inside
  case h_3 same => exact absurd ⟨_, same.symm⟩ inside
  case h_4 same => exact absurd ⟨_, same.symm⟩ inside
  case h_5 same =>
    cases same
    exact absurd plain (by decide)
  case h_6 same =>
    cases same
    rw [if_pos]
    · rfl
    · rwa [Bool.or_eq_true, beq_iff_eq]

/-- Up to two quotes in front of the closing ones belong to the text. -/
theorem literalLinesTail?_end {q : ℕ} (few : q ≤ 2) {rest : List Char} (stop : rest.head? ≠ some '\'') :
    literalLinesTail? (List.replicate q '\'' ++ (List.replicate 3 '\'' ++ rest)) = some (List.replicate q '\'', rest) := by
  have others : ∀ more, rest ≠ '\'' :: more := by
    rintro more rfl
    exact stop rfl
  interval_cases q <;> simp [List.replicate, literalLinesTail?, others]

theorem holdsTriple_iff {a : Char} {text : List Char} : holdsTriple a text = true ↔ List.replicate 3 a <:+: text := by
  fun_induction holdsTriple a text with
  | case1 b c d rest ih =>
    rw [List.infix_cons_iff, Bool.or_eq_true, ih]
    refine or_congr_left ?_
    simp only [List.replicate, List.cons_prefix_cons, List.nil_prefix, Bool.and_eq_true, beq_iff_eq, and_true, and_assoc]
    grind
  | case2 text short =>
    refine iff_of_false Bool.false_ne_true fun inside => ?_
    match text, inside.length_le with
    | b :: c :: d :: rest, _ => exact short b c d rest rfl

/-- Of the text between triple quotes `q` quotes were read last, and they are counted together with those that come. -/
theorem literalLinesTail?_of_plain {q : ℕ} (few : q ≤ 2) {text : List Char}
    (plain : ∀ c ∈ text, isPlain c = true ∨ c = '\n')
    (separate : ¬ List.replicate 3 '\'' <:+: List.replicate q '\'' ++ text) {rest : List Char}
    (stop : rest.head? ≠ some '\'') :
    literalLinesTail? (List.replicate q '\'' ++ (text ++ (List.replicate 3 '\'' ++ rest))) =
      some (List.replicate q '\'' ++ text, rest) := by
  induction text generalizing q with
  | nil =>
    rw [List.nil_append, List.append_nil]
    exact literalLinesTail?_end few stop
  | cons c text ih =>
    obtain ⟨allowed, others⟩ := List.forall_mem_cons.1 plain
    by_cases quote : c = '\''
    · -- the run grows by one, and stays below three because the text has no three quotes in a row
      have same : List.replicate (q + 1) '\'' ++ text = List.replicate q '\'' ++ c :: text := by
        rw [quote, List.replicate_succ', List.append_assoc]
        rfl
      have more : q + 1 ≤ 2 := by
        by_contra three
        obtain rfl : q = 2 := by omega
        exact separate (same ▸ (List.prefix_append _ _).isInfix)
      have counted := ih more others (same ▸ separate)
      rw [same, ← List.append_assoc, same, List.append_assoc] at counted
      exact counted
    · have other : (c :: (text ++ (List.replicate 3 '\'' ++ rest))).head? ≠ some '\'' := head?_cons_ne quote _
      have inside := not_replicate_isPrefix other (show 0 < 3 by decide)
      have start := ih (Nat.zero_le 2) others fun triple =>
        separate (triple.trans ((List.suffix_cons c text).trans (List.suffix_append _ _)).isInfix)
      rw [List.replicate_zero, List.nil_append, List.nil_append] at start
      rw [List.cons_append, read_quotes (fun _ => literalLinesTail?_plain (.inl rfl)) few other,
        literalLinesTail?_plain allowed inside, start, map_prepend_prepend]
      simp [prepend]

/-! ### Whole strings -/

/-- A text that a form holds as it is has no character that needs an escape. -/
theorem isPlain_of_holds {form : StringForm} {text : List Char} (holds : form.holds text = true) {c : Char} (mem : c ∈ text) :
    isPlain c = true ∨ c = '\n' := by
  rw [StringForm.holds.eq_def, Bool.and_eq_true, Bool.not_eq_true', List.any_eq_false] at holds
  by_cases newline : c = '\n'
  · exact .inr newline
  · exact .inl (isPlain_of_not_needsEscape (Bool.eq_false_iff.2 (holds.1 c mem)) newline)

/-- A string on one line is not taken for the beginning of one of several lines. -/
theorem quoted?_basic {s : List Char} (single : ¬ List.replicate 3 '"' <+: '"' :: s) : quoted? ('"' :: s) = basicTail? s := by
  rw [quoted?.eq_def]
  split
  case h_1 same => exact absurd ⟨_, same.symm⟩ single
  case h_2 same => cases same
  case h_3 => rfl

theorem quoted?_literal {s : List Char} (single : ¬ List.replicate 3 '\'' <+: '\'' :: s) :
    quoted? ('\'' :: s) = literalTail? s := by
  rw [quoted?.eq_def]
  split
  case h_1 same => cases same
  case h_2 same => exact absurd ⟨_, same.symm⟩ single
  case h_3 => rfl

/-- Only a newline, or a return before one, ends a line. -/
theorem newline?_cons {c : Char} (newline : c ≠ '\n') (return' : c ≠ '\r') (s : List Char) : newline? (c :: s) = none := by
  rw [newline?.eq_def]
  split
  case h_1 same => exact absurd (List.cons.inj same).1 newline
  case h_2 same => exact absurd (List.cons.inj same).1 return'
  case h_3 => rfl

theorem newline?_of_isPlain {c : Char} (plain : isPlain c = true) (s : List Char) : newline? (c :: s) = none := by
  refine newline?_cons ?_ ?_ s
  all_goals
    rintro rfl
    cases plain

/-- The newline behind the opening quotes is left out again, and nothing else is. -/
theorem skipNewline_leadingNewline {text body : List Char} (kept : '\n' ∉ text → newline? body = none) :
    skipNewline (StringForm.leadingNewline text ++ body) = body := by
  rw [StringForm.leadingNewline]
  split
  case isTrue => rfl
  case isFalse none =>
    rw [List.nil_append, skipNewline, kept (by simpa using none)]
    rfl

variable {rest : List Char}

/-- What is written between double quotes on one line is read back. -/
theorem quoted?_write_basic (text : List Char) (stop : rest.head? ≠ some '"') :
    quoted? (StringForm.basic.write text ++ rest) = some (text, rest) := by
  -- an empty string is two quotes and what follows, and any other begins with one quote only
  have single : ¬ List.replicate 3 '"' <+: '"' :: (text.flatMap escapeChar ++ '"' :: rest) := by
    cases text with
    | nil => exact not_replicate_isPrefix (q := 2) stop (by decide)
    | cons c text =>
      refine not_replicate_isPrefix (q := 1) ?_ (by decide)
      rw [List.flatMap_cons]
      rcases escapeChar_cases c with ⟨code, form, -⟩ | ⟨form, quote, -⟩ <;> rw [form]
      · exact head?_cons_ne (by decide) _
      · exact head?_cons_ne quote _
  have written : StringForm.basic.write text ++ rest = '"' :: (text.flatMap escapeChar ++ '"' :: rest) := by
    simp [StringForm.write]
  rw [written, quoted?_basic single, basicTail?_flatMap]

/-- What is written between single quotes on one line is read back. -/
theorem quoted?_write_literal {text : List Char} (holds : StringForm.literal.holds text = true)
    (stop : rest.head? ≠ some '\'') : quoted? (StringForm.literal.write text ++ rest) = some (text, rest) := by
  have plain : ∀ c ∈ text, isPlain c = true ∧ c ≠ '\'' := by
    intro c mem
    have absent := (Bool.and_eq_true _ _ ▸ holds).2
    rw [Bool.and_eq_true, Bool.not_eq_true', Bool.not_eq_true', List.contains_eq_mem, List.contains_eq_mem,
      decide_eq_false_iff_not, decide_eq_false_iff_not] at absent
    refine ⟨(isPlain_of_holds holds mem).resolve_right fun newline => absent.2 (newline ▸ mem), ?_⟩
    exact fun quote => absent.1 (quote ▸ mem)
  have single : ¬ List.replicate 3 '\'' <+: '\'' :: (text ++ '\'' :: rest) := by
    cases text with
    | nil => exact not_replicate_isPrefix (q := 2) stop (by decide)
    | cons c text =>
      refine not_replicate_isPrefix (q := 1) ?_ (by decide)
      exact head?_cons_ne (plain c List.mem_cons_self).2 _
  have written : StringForm.literal.write text ++ rest = '\'' :: (text ++ '\'' :: rest) := by
    simp [StringForm.write]
  rw [written, quoted?_literal single, literalTail?_of_plain plain]

/-- What is written between triple double quotes is read back. -/
theorem quoted?_write_basicLines (text : List Char) (stop : rest.head? ≠ some '"') :
    quoted? (StringForm.basicLines.write text ++ rest) = some (text, rest) := by
  have written : StringForm.basicLines.write text ++ rest =
      '"' :: '"' :: '"' :: (StringForm.leadingNewline text ++ (escapeLines 0 text ++ (List.replicate 3 '"' ++ rest))) := by
    simp [StringForm.write]
  have kept : '\n' ∉ text → newline? (escapeLines 0 text ++ (List.replicate 3 '"' ++ rest)) = none := by
    intro oneLine
    cases text with
    | nil => exact newline?_of_isPlain (by decide) _
    | cons c text =>
      rw [List.mem_cons, not_or] at oneLine
      rw [escapeLines]
      split_ifs with quote none newline
      · exact newline?_of_isPlain (by decide) _
      · exact absurd Nat.two_pos none
      · exact absurd newline.symm oneLine.1
      · rcases escapeChar_cases c with ⟨code, form, -⟩ | ⟨form, -, -, plain⟩ <;> rw [form]
        · exact newline?_of_isPlain (by decide) _
        · exact newline?_of_isPlain plain _
  rw [written, quoted?, skipNewline_leadingNewline kept]
  exact basicLinesTail?_escapeLines (Nat.zero_le 2) text stop

/-- What is written between triple single quotes is read back. -/
theorem quoted?_write_literalLines {text : List Char} (holds : StringForm.literalLines.holds text = true)
    (stop : rest.head? ≠ some '\'') : quoted? (StringForm.literalLines.write text ++ rest) = some (text, rest) := by
  have plain : ∀ c ∈ text, isPlain c = true ∨ c = '\n' := fun c => isPlain_of_holds holds
  have separate : ¬ List.replicate 3 '\'' <:+: text := by
    have absent := (Bool.and_eq_true _ _ ▸ holds).2
    rw [Bool.not_eq_true', Bool.eq_false_iff, ne_eq, holdsTriple_iff] at absent
    exact absent
  have written : StringForm.literalLines.write text ++ rest =
      '\'' :: '\'' :: '\'' :: (StringForm.leadingNewline text ++ (text ++ (List.replicate 3 '\'' ++ rest))) := by
    simp [StringForm.write]
  have kept : '\n' ∉ text → newline? (text ++ (List.replicate 3 '\'' ++ rest)) = none := by
    intro oneLine
    cases text with
    | nil => exact newline?_of_isPlain (by decide) _
    | cons c text =>
      have first := (plain c List.mem_cons_self).resolve_right fun same => oneLine (same ▸ List.mem_cons_self)
      exact newline?_of_isPlain first _
  rw [written, quoted?, skipNewline_leadingNewline kept]
  exact literalLinesTail?_of_plain (q := 0) (Nat.zero_le 2) plain separate stop

/-- The form in which a text is written holds it as it is, unless it is between double quotes. -/
theorem holds_ofText (text : List Char) :
    (StringForm.ofText text).holds text = true ∨ StringForm.ofText text = .basic ∨ StringForm.ofText text = .basicLines := by
  rw [StringForm.ofText]
  cases found : [StringForm.basic, .literal, .basicLines, .literalLines].find? fun form => form.holds text with
  | some form =>
    have holds := List.find?_some found
    exact .inl holds
  | none =>
    rw [Option.getD_none]
    split
    · exact .inr (.inr rfl)
    · exact .inr (.inl rfl)

/-- Every text is read back from the string that is written for it. -/
theorem quoted?_stringChars (text : List Char) (stop : rest.head? ≠ some '"') (stop' : rest.head? ≠ some '\'') :
    quoted? (stringChars text ++ rest) = some (text, rest) := by
  have holds := holds_ofText text
  rw [stringChars]
  cases form : StringForm.ofText text with
  | basic => exact quoted?_write_basic text stop
  | literal =>
    rw [form] at holds
    exact quoted?_write_literal (holds.resolve_right (by decide)) stop'
  | basicLines => exact quoted?_write_basicLines text stop
  | literalLines =>
    rw [form] at holds
    exact quoted?_write_literalLines (holds.resolve_right (by decide)) stop'

end DensityAudit.Toml
