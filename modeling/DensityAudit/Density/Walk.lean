import DensityAudit.Density.Guarded

/-!
# Growing a cluster pass by pass

The loop of `Guarded.visit?` told by what one pass of it does, with a note of the rows whose neighbours have been asked
for. A pass takes one row off the stack. It has no counterpart where the loop would access something that does not exist.
-/

namespace DensityAudit.Density.Guarded

/-- The state of the loop between two passes. -/
structure Walk where
  /-- The rows that wait, the one pushed last in front. -/
  stack : List Nat
  marks : Marks
  /-- The rows whose neighbours have been asked for, the last one in front. -/
  expanded : List Nat

section

variable (data : Table Float) (reach : Float) (cores : List Bool) (label : Label)

/-- One pass of the loop. -/
inductive Pass : Walk → Walk → Prop
  /-- A row with a label is dropped. -/
  | drop {i : Nat} {rest : List Nat} {marks : Marks} {expanded : List Nat} {l : Label} (reached : marks[i]? = some (some l)) :
      Pass ⟨i :: rest, marks, expanded⟩ ⟨rest, marks, expanded⟩
  /-- A row without a label gets one. Only if it is core, its neighbours are asked for. -/
  | take {i : Nat} {rest next : List Nat} {marks : Marks} {expanded : List Nat} (free : marks[i]? = some none)
      (pushed : onward? data reach cores (marks.setIfInBounds i (some label)) i = some next) :
      Pass ⟨i :: rest, marks, expanded⟩
        ⟨next.reverse ++ rest, marks.setIfInBounds i (some label),
          if cores[i]? = some true then i :: expanded else expanded⟩

/-- The state before the first pass: the seed has the label, and its neighbours wait. -/
def start? (seed : Nat) (marks : Marks) : Option Walk :=
  if seed < marks.size then
    (near? data reach seed).map fun found => ⟨found.reverse, marks.setIfInBounds seed (some label), [seed]⟩
  else none

end

end DensityAudit.Density.Guarded
