import DensityAudit.Compare.Labels

/-!
# Comparison of partitions

Two labellings describe the same partition if the same rows are noise and some one-to-one renaming takes
the clusters of one to those of the other. The renaming grows row by row; the first row that no extension
of it explains is the mismatch. A row is first asked whether its computed cluster has another partner, and
only then whether its reference cluster has.
-/

namespace DensityAudit

/-- Pairs of a computed cluster and its reference cluster, in ascending order of the computed one. -/
abbrev Renaming := List (Label × Label)

namespace Renaming

/-- The reference cluster paired with a computed one. -/
def image? (m : Renaming) (computed : Label) : Option Label :=
  (m.find? fun pair => pair.1 == computed).map Prod.snd

/-- The computed cluster paired with a reference one. -/
def preimage? (m : Renaming) (reference : Label) : Option Label :=
  (m.find? fun pair => pair.2 == reference).map Prod.fst

/-- The renaming with one more pair, in its place. -/
def insert (computed reference : Label) : Renaming → Renaming
  | [] => [(computed, reference)]
  | pair :: rest =>
    if computed < pair.1 then (computed, reference) :: pair :: rest else pair :: insert computed reference rest

/-- The renaming extended by a row's pair of labels, or why that is impossible. -/
def extend (m : Renaming) (computed reference : Label) : Except Conflict Renaming :=
  if computed < 0 then (if reference < 0 then .ok m else .error .noise)
  else if reference < 0 then .error .noise
  else match (m.image? computed).filter (· != reference), (m.preimage? reference).filter (· != computed) with
    | some previous, _ => .error (.split previous)
    | none, some previous => .error (.merge previous)
    | none, none => .ok (if (m.image? computed).isSome then m else m.insert computed reference)

end Renaming

/-- Two labellings found equal up to a renaming. -/
structure EqualPartitions where
  rows : Nat
  pairs : Renaming
deriving DecidableEq

def EqualPartitions.clusterCount (e : EqualPartitions) : Nat := e.pairs.length

/-- Extends a renaming by all rows, counting from `index`. -/
def matchRows (index : Nat) (m : Renaming) : List Label → List Label → Except Mismatch Renaming
  | c :: computed, r :: reference =>
    match m.extend c r with
    | .ok extended => matchRows (index + 1) extended computed reference
    | .error conflict => .error (.structural ⟨index, c, r⟩ conflict)
  | _, _ => .ok m

/-- Demands the same partition of the rows, whatever the clusters are called. -/
def comparePartitions (computed reference : List Label) : Except Failure EqualPartitions :=
  if computed.length ≠ reference.length then .error (unequalRows computed reference)
  else match matchRows 0 [] computed reference with
    | .ok pairs => .ok ⟨computed.length, pairs⟩
    | .error mismatch => .error (.mismatch mismatch)

end DensityAudit
