import DensityAudit.Disclosure

/-!
# What an answer discloses

`Answer.read` reads an output by its name. An output that cannot be read is refused by the error that names
it, whatever the answer (`Answer.query_eq`), so an answer discloses a requested set exactly if the readable
outputs are its members (`disclosure_ok_iff`). Otherwise the first output that makes a difference is the failure
(`disclosure_eq`).
-/

namespace DensityAudit

def Output.Value : Output → Type
  | .labels => Label
  | .coreFlags => Bool
  | .coreRows => Float
  | .coreIndices => Nat

theorem Output.mem_all (o : Output) : o ∈ Output.all := by cases o <;> simp [Output.all]

namespace Answer

/-- The table of an output, or the error that it was not requested. -/
def read (a : Answer) : (o : Output) → Except EngineError (Table o.Value)
  | .labels => a.labels
  | .coreFlags => a.coreFlags
  | .coreRows => a.coreRows
  | .coreIndices => a.coreIndices

/-- The output can be read. -/
def readable (a : Answer) (o : Output) : Bool := (a.query o).isOk

/-- Asking whether an output can be read is reading it and leaving the table aside. -/
theorem query_eq_map_read (a : Answer) (o : Output) : a.query o = (a.read o).map fun _ => () := by
  cases o <;> rfl

theorem stored_eq {α : Type} (o : Output) (table : Option (Table α)) :
    (∃ t, stored o table = .ok t) ∨ stored o table = .error (.notRequested o) := by
  cases table with
  | none => exact .inr rfl
  | some t => exact .inl ⟨t, rfl⟩

/-- An output is readable, or refused by the error that names it. -/
theorem read_cases (a : Answer) (o : Output) : (∃ t, a.read o = .ok t) ∨ a.read o = .error (.notRequested o) := by
  cases o <;> exact stored_eq ..

theorem query_eq (a : Answer) (o : Output) :
    a.query o = if a.readable o then .ok () else .error (.notRequested o) := by
  rw [readable, query_eq_map_read]
  rcases a.read_cases o with ⟨t, read⟩ | refused
  · rw [read]
    rfl
  · rw [refused]
    rfl

theorem readable_of_read {a : Answer} {o : Output} {t : Table o.Value} (h : a.read o = .ok t) : a.readable o = true := by
  rw [readable, query_eq_map_read, h]
  rfl

theorem not_readable_of_read {a : Answer} {o : Output} {e : EngineError} (h : a.read o = .error e) :
    a.readable o = false := by
  rw [readable, query_eq_map_read, h]
  rfl

end Answer

/-- An output behaves as requested iff it is readable exactly if requested. -/
theorem discloses_ok_iff {a : Answer} {requested : Bool} {o : Output} {found : Availability} :
    discloses a requested o = .ok found ↔
      requested = a.readable o ∧ found = if requested then .available else .refused := by
  have asked := a.query_eq o
  cases readable : a.readable o with
  | true =>
    rw [readable, if_pos rfl] at asked
    cases requested <;> simp [discloses, asked, eq_comm]
  | false =>
    rw [readable, if_neg Bool.false_ne_true] at asked
    cases requested <;> simp [discloses, asked, eq_comm]

/-! ### The check of a set -/

/-- What the check of a set reports when it passes. -/
def DisclosureReport.expected (requested : OutputSet) : DisclosureReport :=
  ⟨requested, Output.all.map fun o => (o, if requested.contains o then .available else .refused)⟩

/-- The disclosure of a set passes if the readable outputs are its members. -/
theorem disclosure_of_agree {requested : OutputSet} {a : Answer} (h : ∀ o, requested.contains o = a.readable o) :
    disclosure requested a = .ok (.expected requested) := by
  have each : ∀ o, discloses a (requested.contains o) o =
      .ok (if requested.contains o then .available else .refused) := fun o => discloses_ok_iff.2 ⟨h o, rfl⟩
  simp only [disclosure, each]
  rfl

/-- The first output, in the order of declaration, that can be read without being requested or the other way round. -/
def firstViolation? (requested : OutputSet) (a : Answer) : Option Output :=
  Output.all.find? fun o => requested.contains o != a.readable o

/-- The failure of an answer that shows an output although it was not requested, or not although it was. -/
def violation (requested : OutputSet) (o : Output) : Failure :=
  .contract o (requested.contains o)
    (if requested.contains o then "requested output was not accessible: " ++ (EngineError.notRequested o).message
    else "unrequested output was accessible")

/-- No output makes a difference iff exactly the requested ones can be read. -/
theorem firstViolation?_eq_none_iff {requested : OutputSet} {a : Answer} :
    firstViolation? requested a = none ↔ ∀ o, requested.contains o = a.readable o := by
  rw [firstViolation?, List.find?_eq_none]
  constructor
  · exact fun agree o => by simpa using agree o o.mem_all
  · exact fun agree o _ => by simpa using agree o

theorem discloses_of_violation {requested : OutputSet} {a : Answer} {o : Output}
    (differ : requested.contains o ≠ a.readable o) :
    discloses a (requested.contains o) o = .error (violation requested o) := by
  have asked := a.query_eq o
  cases readable : a.readable o with
  | true =>
    rw [readable, if_pos rfl] at asked
    have other : requested.contains o = false := by simpa [readable] using differ
    simp [discloses, asked, violation, other]
  | false =>
    rw [readable, if_neg Bool.false_ne_true] at asked
    have other : requested.contains o = true := by simpa [readable] using differ
    simp [discloses, asked, violation, other, inaccessible]

theorem mapM_eq_error {ε α β : Type} {f : α → Except ε β} {before after : List α} {x : α} {e : ε}
    (passed : ∀ y ∈ before, ∃ z, f y = .ok z) (failed : f x = .error e) : (before ++ x :: after).mapM f = .error e := by
  induction before with
  | nil =>
    rw [List.nil_append, List.mapM_cons, failed]
    rfl
  | cons first rest ih =>
    obtain ⟨z, head⟩ := passed first (List.mem_cons_self ..)
    rw [List.cons_append, List.mapM_cons, head, ih fun y member => passed y (List.mem_cons_of_mem _ member)]
    rfl

/-- The disclosure of a set passes, or fails with the first output that makes a difference. -/
theorem disclosure_eq (requested : OutputSet) (a : Answer) : disclosure requested a =
    match firstViolation? requested a with
    | none => .ok (.expected requested)
    | some o => .error (violation requested o) := by
  cases first : firstViolation? requested a with
  | none => exact disclosure_of_agree (firstViolation?_eq_none_iff.1 first)
  | some o =>
    -- the outputs before the first difference pass, so the pass over all of them gets to it and stops there
    obtain ⟨differ, before, after, split, agree⟩ := List.find?_eq_some_iff_append.1 first
    have failed := discloses_of_violation (a := a) (bne_iff_ne.1 differ)
    have passed : ∀ p ∈ before, discloses a (requested.contains p) p =
        .ok (if requested.contains p then .available else .refused) := fun p member =>
      discloses_ok_iff.2 ⟨by simpa using agree p member, rfl⟩
    rw [disclosure, split, mapM_eq_error (e := violation requested o)]
    · rfl
    · exact fun p member => ⟨(p, _), by rw [passed p member]; rfl⟩
    · rw [failed]
      rfl

/-- A disclosure passes iff exactly the requested outputs can be read. -/
theorem disclosure_eq_ok_iff {requested : OutputSet} {a : Answer} {report : DisclosureReport} :
    disclosure requested a = .ok report ↔ (∀ o, requested.contains o = a.readable o) ∧ report = .expected requested := by
  rw [← firstViolation?_eq_none_iff, disclosure_eq]
  cases firstViolation? requested a with
  | none => rw [Except.ok.injEq, and_iff_right rfl, eq_comm]
  | some o => exact iff_of_false nofun nofun

/-- An answer discloses a set exactly if the readable outputs are its members. -/
theorem disclosure_ok_iff {requested : OutputSet} {a : Answer} :
    (∃ report, disclosure requested a = .ok report) ↔ ∀ o, requested.contains o = a.readable o := by
  simp only [disclosure_eq_ok_iff, exists_and_left, exists_eq, and_true]

/-- A disclosure fails with the first output that makes a difference. -/
theorem disclosure_eq_error_iff {requested : OutputSet} {a : Answer} {f : Failure} :
    disclosure requested a = .error f ↔ ∃ o, firstViolation? requested a = some o ∧ f = violation requested o := by
  rw [disclosure_eq]
  cases firstViolation? requested a with
  | none => exact iff_of_false nofun nofun
  | some o => simp only [Except.error.injEq, Option.some.injEq, exists_eq_left', eq_comm]

/-! ### Sound answers -/

/-- An answer shows the requested outputs and no others. -/
structure Answer.Shows (a : Answer) (requested : OutputSet) : Prop where
  outputs : a.outputs = requested
  /-- Exactly the requested outputs can be read. -/
  read_iff : ∀ o, (∃ t, a.read o = .ok t) ↔ requested.contains o = true
  query_iff : ∀ o, a.query o = .ok () ↔ requested.contains o = true
  /-- Every other output is refused by the error that names it. -/
  refused : ∀ o, requested.contains o = false →
    a.read o = .error (.notRequested o) ∧ a.query o = .error (.notRequested o)
  /-- The requested set is the only one whose disclosure passes. -/
  disclosed_iff : ∀ set, (∃ report, disclosure set a = .ok report) ↔ set = requested

theorem Answer.shows_of_readable {a : Answer} (h : ∀ o, a.outputs.contains o = a.readable o) : a.Shows a.outputs where
  outputs := rfl
  read_iff o := by
    rw [h]
    rcases a.read_cases o with ⟨t, read⟩ | refused
    · exact iff_of_true ⟨t, read⟩ (readable_of_read read)
    · rw [refused, not_readable_of_read refused]
      exact iff_of_false (fun ⟨t, read⟩ => nomatch read) Bool.false_ne_true
  query_iff o := by
    rw [h, query_eq]
    cases a.readable o <;> simp
  refused o other := by
    rw [h] at other
    constructor
    · rcases a.read_cases o with ⟨t, read⟩ | refused
      · rw [readable_of_read read] at other
        cases other
      · exact refused
    · rw [query_eq, other, if_neg Bool.false_ne_true]
  disclosed_iff set := by
    rw [disclosure_ok_iff]
    constructor
    · intro agree
      exact OutputSet.ext_contains fun o => (agree o).trans (h o).symm
    · rintro rfl
      exact h

end DensityAudit
