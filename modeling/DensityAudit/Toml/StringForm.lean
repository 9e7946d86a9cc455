/-!
# The forms of a written string

TOML strings come in four forms: between double or single quotes, on one line or, with three quotes, on
several. A text is written in the first form that can hold it as it is. A text that no form can hold so is
written between double quotes with escapes, on several lines if it has newlines.
-/

namespace DensityAudit.Toml

/-- The upper-case hexadecimal digits of `n`, with zeros in front up to four. -/
def hexDigits4 (n : Nat) : List Char :=
  let digits := (Nat.toDigits 16 n).map Char.toUpper
  List.replicate (4 - digits.length) '0' ++ digits

/-- A control character other than a tab or a newline, for which only an escape can stand. -/
def needsEscape (c : Char) : Bool := c != '\t' && c != '\n' && (decide (c.toNat < 32) || c.toNat == 127)

/-- A character between double quotes. -/
def escapeChar (c : Char) : List Char :=
  if c = '\x08' then ['\\', 'b']
  else if c = '\t' then ['\\', 't']
  else if c = '\n' then ['\\', 'n']
  else if c = '\x0c' then ['\\', 'f']
  else if c = '\r' then ['\\', 'r']
  else if c = '"' then ['\\', '"']
  else if c = '\\' then ['\\', '\\']
  else if needsEscape c then '\\' :: 'u' :: hexDigits4 c.toNat
  else [c]

/-- The characters of a text between triple double quotes, after `quotes` quotes that stand there as they are.
Newlines stand as they are, and so do quotes but for the third in a row, which would end the string. -/
def escapeLines : Nat → List Char → List Char
  | _, [] => []
  | quotes, c :: rest =>
    if c = '"' then
      if quotes < 2 then '"' :: escapeLines (quotes + 1) rest else '\\' :: '"' :: escapeLines 0 rest
    else if c = '\n' then '\n' :: escapeLines 0 rest
    else escapeChar c ++ escapeLines 0 rest

/-- The character `q` three times in a row. -/
def holdsTriple (q : Char) : List Char → Bool
  | a :: b :: c :: rest => (a == q && b == q && c == q) || holdsTriple q (b :: c :: rest)
  | _ => false

/-- The forms of a string, in the order of preference. Only those between double quotes know escapes. -/
inductive StringForm where
  | basic
  | literal
  | basicLines
  | literalLines
deriving DecidableEq, Repr

namespace StringForm

/-- The text can stand in the form as it is. A tab is no obstacle, though it is escaped between double
quotes. -/
def holds (form : StringForm) (text : List Char) : Bool :=
  !text.any needsEscape &&
    match form with
    | basic => !text.contains '"' && !text.contains '\\' && !text.contains '\n'
    | literal => !text.contains '\'' && !text.contains '\n'
    | basicLines => !holdsTriple '"' text && !text.contains '\\'
    | literalLines => !holdsTriple '\'' text

/-- The form in which a text is written. -/
def ofText (text : List Char) : StringForm :=
  ([basic, literal, basicLines, literalLines].find? fun form => form.holds text).getD
    (if text.contains '\n' then basicLines else basic)

/-- The newline behind the opening quotes of a text with newlines. A reader leaves out one newline there, so
that one at the front of the text is kept. -/
def leadingNewline (text : List Char) : List Char := if text.contains '\n' then ['\n'] else []

/-- A text in a form, with its quotes. -/
def write (form : StringForm) (text : List Char) : List Char :=
  match form with
  | basic => '"' :: text.flatMap escapeChar ++ ['"']
  | literal => '\'' :: text ++ ['\'']
  | basicLines => ['"', '"', '"'] ++ leadingNewline text ++ escapeLines 0 text ++ ['"', '"', '"']
  | literalLines => ['\'', '\'', '\''] ++ leadingNewline text ++ text ++ ['\'', '\'', '\'']

end StringForm

end DensityAudit.Toml
