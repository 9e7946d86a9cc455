/-!
# Blanks, comments and line ends

What stands between the parts of a TOML document. Every reader takes the characters that are left and
answers those that are left after it.
-/

namespace DensityAudit.Toml

/-- A space or a tab. -/
def isBlank (c : Char) : Bool := c == ' ' || c == '\t'

/-- Every character but the controls; a tab is allowed. -/
def isPlain (c : Char) : Bool := c == '\t' || (decide (32 ≤ c.toNat) && c.toNat != 127)

def skipBlanks (s : List Char) : List Char := s.dropWhile isBlank

/-- Takes a line feed, or a carriage return with its line feed. -/
def newline? : List Char → Option (List Char)
  | '\n' :: rest => some rest
  | '\r' :: '\n' :: rest => some rest
  | _ => none

/-- Leaves out a comment, but not the end of its line. -/
def skipComment : List Char → List Char
  | '#' :: rest => rest.dropWhile isPlain
  | s => s

/-- Takes the end of a line: blanks, perhaps a comment, and a newline or the end of the text. -/
def endOfLine? (s : List Char) : Option (List Char) :=
  match skipComment (skipBlanks s) with
  | [] => some []
  | rest => newline? rest

/-- Leaves out blanks and newlines. -/
def skipSpace : List Char → List Char
  | ' ' :: rest => skipSpace rest
  | '\t' :: rest => skipSpace rest
  | '\n' :: rest => skipSpace rest
  | '\r' :: '\n' :: rest => skipSpace rest
  | s => s

/-- Leaves out blanks, newlines and comments; the text must go on after a comment's line. -/
def skipLines? (s : List Char) : Option (List Char) :=
  match skipBlanks s with
  | '#' :: rest =>
    match newline? (rest.dropWhile isPlain) with
    | some next => if next.length < s.length then skipLines? next else none
    | none => none
  | rest =>
    match newline? rest with
    | some next => if next.length < s.length then skipLines? next else none
    | none => some rest
termination_by s.length

end DensityAudit.Toml
