import DensityAudit.Toml.Quoted
import DensityAudit.Toml.Scalar
import DensityAudit.Toml.Tables

/-!
# Reading TOML documents

A document is a list of statements, one to a line: headers that open a table and assignments to keys.
`statements?` reads the lines, and `document?` builds the tables that they describe. Values nest, and keys
have parts, to a limited depth.
-/

namespace DensityAudit.Toml

/-- Arrays and inline tables nest at most this deep, and a key has at most as many parts. -/
def depthLimit : Nat := 79

/-- A character of a key without quotes. -/
def isBareKeyChar (c : Char) : Bool := c.isAlphanum || c == '_' || c == '-'

/-- One part of a key. -/
def keyPart? (s : List Char) : Option (List Char × List Char) :=
  match s with
  | '"' :: _ => quotedLine? s
  | '\'' :: _ => quotedLine? s
  | _ =>
    let part := s.takeWhile isBareKeyChar
    if part.isEmpty then none else some (part, s.dropWhile isBareKeyChar)

/-- A key of at most `limit` parts with dots between them; blanks around the parts do not matter. -/
def keyPath? : (limit : Nat) → List Char → Option (List String × List Char)
  | 0, _ => none
  | limit + 1, s =>
    (keyPart? (skipBlanks s)).bind fun (part, rest) =>
      match skipBlanks rest with
      | '.' :: more => (keyPath? limit more).map fun (path, left) => (String.ofList part :: path, left)
      | left => some ([String.ofList part], left)

/-- The items of an array, after its opening bracket. A comma may follow the last one. -/
def arrayTail? (item : List Char → Option (Value × List Char)) (s : List Char) : Option (List Value × List Char) :=
  (skipLines? s).bind fun start =>
    match start with
    | ']' :: rest => some ([], rest)
    | _ =>
      (item start).bind fun (value, rest) =>
        (skipLines? rest).bind fun rest =>
          match rest with
          | ']' :: left => some ([value], left)
          | ',' :: more =>
            if more.length < s.length then
              (arrayTail? item more).map fun (values, left) => (value :: values, left)
            else none
          | _ => none
termination_by s.length

/-- An assignment inside an inline table: a key, an equals sign and a value. -/
def inlinePair? (item : List Char → Option (Value × List Char)) (s : List Char) :
    Option ((List String × Value) × List Char) :=
  (keyPath? depthLimit s).bind fun (path, rest) =>
    match rest with
    | '=' :: more => (item (skipBlanks more)).map fun (value, left) => ((path, value), skipBlanks left)
    | _ => none

/-- The assignments of an inline table that is not empty, after its opening brace. -/
def inlineTail? (item : List Char → Option (Value × List Char)) (s : List Char) :
    Option (List (List String × Value) × List Char) :=
  (inlinePair? item s).bind fun (pair, rest) =>
    match rest with
    | '}' :: left => some ([pair], left)
    | ',' :: more =>
      if more.length < s.length then (inlineTail? item more).map fun (pairs, left) => (pair :: pairs, left) else none
    | _ => none
termination_by s.length

def addAssignment (origin : Origin) (entries : Entries) (assignment : List String × Value) : Option Entries :=
  match assignment.1.getLast? with
  | some key => assign assignment.1.dropLast key assignment.2 origin entries
  | none => none

/-- The inline table with the given assignments. -/
def inlineTable? (assignments : List (List String × Value)) : Option Value :=
  (assignments.foldlM (addAssignment .inline) []).map (.table .inline)

/-- A value whose arrays and inline tables nest at most `depth` deep. -/
def value? : (depth : Nat) → List Char → Option (Value × List Char)
  | depth, s =>
    match depth, s with
    | depth + 1, '[' :: rest => (arrayTail? (value? depth) rest).map fun (items, left) => (.array items, left)
    | depth + 1, '{' :: rest =>
      match skipBlanks rest with
      | '}' :: left => some (.table .inline [], left)
      | start =>
        (inlineTail? (value? depth) start).bind fun (assignments, left) =>
          (inlineTable? assignments).map fun table => (table, left)
    | _, '"' :: _ => (quoted? s).map fun (text, left) => (.string (String.ofList text), left)
    | _, '\'' :: _ => (quoted? s).map fun (text, left) => (.string (String.ofList text), left)
    | _, _ => scalarFront? s

/-- A line of a document. -/
inductive Statement where
  /-- A table's header. -/
  | header (path : List String)
  /-- The header of one more element of an array of tables. -/
  | element (path : List String)
  | assignment (path : List String) (value : Value)

/-- A statement, without the end of its line. -/
def statement? (s : List Char) : Option (Statement × List Char) :=
  match s with
  | '[' :: '[' :: rest =>
    (keyPath? depthLimit rest).bind fun (path, left) =>
      match left with
      | ']' :: ']' :: left => some (.element path, left)
      | _ => none
  | '[' :: rest =>
    (keyPath? depthLimit rest).bind fun (path, left) =>
      match left with
      | ']' :: left => some (.header path, left)
      | _ => none
  | _ =>
    (keyPath? depthLimit s).bind fun (path, left) =>
      match left with
      | '=' :: more => (value? depthLimit (skipBlanks more)).map fun (value, left) => (.assignment path value, left)
      | _ => none

/-- The statements of a document. Empty lines and lines with only a comment hold none. -/
def statements? (s : List Char) : Option (List Statement) :=
  match skipBlanks s with
  | [] => some []
  | start =>
    match endOfLine? start with
    | some rest => if rest.length < s.length then statements? rest else none
    | none =>
      (statement? start).bind fun (statement, rest) =>
        (endOfLine? rest).bind fun rest =>
          if rest.length < s.length then (statements? rest).map (statement :: ·) else none
termination_by s.length

/-- A document under construction: what it holds so far, and the table that assignments add to. -/
structure Draft where
  entries : Entries
  current : List String

/-- Edits the table that a path of headers leads to. -/
def Draft.atPath (d : Draft) (path : List String) (edit : Edit) : Option Entries :=
  walk .implied edit path .header d.entries

/-- The draft after one more statement. -/
def Draft.add (d : Draft) : Statement → Option Draft
  | .header path =>
    path.getLast?.bind fun key => (d.atPath path.dropLast (openTable key)).map fun entries => ⟨entries, path⟩
  | .element path =>
    path.getLast?.bind fun key => (d.atPath path.dropLast (openElement key)).map fun entries => ⟨entries, path⟩
  | .assignment path value =>
    (d.atPath d.current fun origin entries => addAssignment origin entries (path, value)).map fun entries =>
      { d with entries := entries }

/-- The text without a byte order mark at its front. -/
def skipMark : List Char → List Char
  | '\uFEFF' :: rest => rest
  | s => s

def document? (text : String) : Option Entries :=
  (statements? (skipMark text.toList)).bind fun statements =>
    (statements.foldlM Draft.add ⟨[], []⟩).map Draft.entries

end DensityAudit.Toml
