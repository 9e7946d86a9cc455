import DensityAudit.Toml.Value

/-!
# Building tables line by line

Headers and assignments name a place by a path of keys. `walk` goes along a path, making the tables that
are missing, and edits the table at its end. A path never leads into a finished value; a dotted key may
not add to a table that has a header of its own; and a path into an array of tables leads to its newest one.
-/

namespace DensityAudit.Toml

def Entries.get? (entries : Entries) (key : String) : Option Value :=
  (entries.find? fun entry => entry.1 == key).map Prod.snd

/-- The entries with the value of a key replaced, or added at the end. -/
def Entries.set (key : String) (value : Value) : Entries → Entries
  | [] => [(key, value)]
  | entry :: rest => if entry.1 = key then (key, value) :: rest else entry :: Entries.set key value rest

/-- A change to a table, which may depend on how the table came to be and may be refused. -/
abbrev Edit := Origin → Entries → Option Entries

/-- Edits the table at the end of a path. Tables that are missing on the way come to be as `made`. -/
def walk (made : Origin) (edit : Edit) : List String → Origin → Entries → Option Entries
  | [], origin, entries => edit origin entries
  | key :: path, _, entries =>
    match entries.get? key with
    | none => do
      let inner ← walk made edit path made []
      some (entries.set key (.table made inner))
    | some (.table origin inner) =>
      if origin = .inline ∨ (made = .dotted ∧ origin = .header) then none
      else do
        let inner ← walk made edit path origin inner
        some (entries.set key (.table origin inner))
    | some (.tables elements) => do
      let newest ← elements.getLast?
      let edited ← walk made edit path .header newest
      some (entries.set key (.tables (elements.dropLast ++ [edited])))
    | some _ => none

/-- Adds a new key. -/
def addKey (key : String) (value : Value) : Edit := fun _ entries =>
  if (entries.get? key).isSome then none else some (entries.set key value)

/-- Adds a new key to a table that a dotted key leads to; only dotted keys may have made it. -/
def addDotted (key : String) (value : Value) : Edit := fun origin entries =>
  if origin = .dotted then addKey key value origin entries else none

/-- Assigns a value to a key, which may be dotted. -/
def assign (path : List String) (key : String) (value : Value) : Edit :=
  if path.isEmpty then addKey key value else walk .dotted (addDotted key value) path

/-- Gives a table its header. A table that other headers implied keeps what they put into it. -/
def openTable (key : String) : Edit := fun _ entries =>
  match entries.get? key with
  | none => some (entries.set key (.table .header []))
  | some (.table .implied inner) => some (entries.set key (.table .header inner))
  | some _ => none

/-- Adds an empty table to an array of tables. -/
def openElement (key : String) : Edit := fun _ entries =>
  match entries.get? key with
  | none => some (entries.set key (.tables [[]]))
  | some (.tables elements) => some (entries.set key (.tables (elements ++ [[]])))
  | some _ => none

end DensityAudit.Toml
