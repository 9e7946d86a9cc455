import DensityAudit.Proofs.Compare.Tolerance
import DensityAudit.Proofs.Doubles.Vanishing
import DensityAudit.Proofs.Toml.Documents
import DensityAudit.Request.Document
import DensityAudit.Settings.Document

/-!
# Requests and settings survive a document

A request whose count has sixty-four bits with a sign is read back from the document that is written for it, and so are
settings with a valid tolerance, whatever characters the directory's name has. Settings with another tolerance are read
back as well, and refused by the check with the tolerance that was written. All that is asked of the library that writes
and reads is that it is faithful, and the grammar is (`documents_read_back`).
-/

namespace DensityAudit

open Toml (Entries Holds Library WellFormed)

/-! ### Fields -/

namespace Toml.Entries

variable {α : Type} {entries : Entries} {key : String} {value : Value}

theorem required?_eq (held : entries.get? key = some value) (read : Value → Option α) :
    entries.required? key read = read value := by
  rw [required?, held, Option.bind_some]

theorem withDefault?_eq (held : entries.get? key = some value) (read : Value → Option α) (default : α) :
    entries.withDefault? key read default = read value := by
  rw [withDefault?, held]

/-- A missing entry has the default. -/
theorem withDefault?_eq_default (missing : entries.get? key = none) (read : Value → Option α) (default : α) :
    entries.withDefault? key read default = some default := by
  rw [withDefault?, missing]

end Toml.Entries

/-! ### Sets of outputs -/

/-- An output is found again by its name. -/
theorem Output.ofName?_name (output : Output) : Output.ofName? output.name = some output := by
  cases output <;> decide

namespace OutputSet

/-- A set is the one that its members make. -/
theorem ofList_toList (s : OutputSet) : ofList s.toList = s := by
  refine ext_contains fun output => ?_
  rw [contains_ofList, Bool.eq_iff_iff, decide_eq_true_eq, mem_toList]

theorem mapM_output? (outputs : List Output) :
    (outputs.map fun output => Toml.Value.string output.name).mapM Toml.Value.output? = some outputs := by
  induction outputs with
  | nil => rfl
  | cons output outputs ih =>
    have named : (Toml.Value.string output.name).output? = some output := output.ofName?_name
    rw [List.map_cons, List.mapM_cons, named, ih]
    rfl

/-- A set is read back from the names of its members. -/
theorem outputSet?_names (s : OutputSet) : (Toml.Datum.strings (s.toList.map Output.name)).value.outputSet? = some s := by
  have items : (Toml.Datum.strings (s.toList.map Output.name)).value.items?
      = some (s.toList.map fun output => .string output.name) := congrArg some List.map_map
  rw [Toml.Value.outputSet?, items, Option.bind_some, mapM_output?, Option.map_some, ofList_toList]

end OutputSet

/-! ### Requests -/

namespace Request

variable {r : Request}

theorem wellFormed_fields (defined : r.epsilon.isNaN = false) (fits : r.minObservations ≤ 9223372036854775807) :
    WellFormed r.fields where
  bare := by
    show ∀ key ∈ ["epsilon", "min_observations", "result_options"], Toml.IsBareKey key
    simp [Toml.IsBareKey, Toml.isBareKeyChar]
  writable := by
    simp only [fields, List.forall_mem_cons, List.not_mem_nil, false_imp_iff, implies_true, and_true]
    exact ⟨defined, fits, trivial⟩
  distinct := by
    show ["epsilon", "min_observations", "result_options"].Nodup
    simp

/-- Entries that hold the fields of a request describe it. -/
theorem fromEntries?_eq {entries : Entries} (holds : Holds entries r.fields) : fromEntries? entries = some r := by
  have held := holds.held
  simp only [fields, List.forall_mem_cons, List.not_mem_nil, false_imp_iff, implies_true, and_true] at held
  obtain ⟨epsilon, minObservations, outputs⟩ := held
  have count : (Toml.Datum.count r.minObservations).value.nat? = some r.minObservations := by
    rw [Toml.Datum.value, Toml.Value.nat?, if_pos (Int.natCast_nonneg _), Int.toNat_natCast]
  rw [fromEntries?, Entries.required?_eq epsilon, Entries.required?_eq minObservations, Entries.required?_eq outputs,
    count, r.outputs.outputSet?_names]
  rfl

end Request

/-! ### Settings -/

/-- A tolerance that can accept nothing is zero, negative, infinite or undefined. -/
theorem unusable_iff {tolerance : Float} :
    (tolerance == 0.0) = true ∨ tolerance < 0.0 ∨ tolerance.isInf = true ↔
      tolerance.isNaN = false ∧ isTolerance tolerance = false := by
  have zero : (0.0 : Float).isNaN = false := by decide +kernel
  have accepts : isTolerance tolerance = false ↔
      ¬ (tolerance.isFinite = true ∧ tolerance.isNaN = false ∧ 0 < Binary64.units tolerance) := by
    rw [Bool.eq_false_iff, ne_eq, isTolerance_iff, Binary64.lt_iff_units, Binary64.units_zero, zero, eq_self, true_and]
  rw [Binary64.beq_zero_iff, Binary64.lt_iff_units, Binary64.units_zero, zero, Binary64.isInf_eq, accepts]
  cases tolerance.isNaN with
  | true => simp
  | false =>
    cases tolerance.isFinite with
    | false => simp
    | true =>
      simp only [true_and, Bool.not_true, Bool.and_false, Bool.false_eq_true, or_false]
      omega

namespace Settings

variable {s : Settings}

def keys : Option String → List String
  | some _ => ["default_relative_tolerance", "dataset_root", "run_external"]
  | none => ["default_relative_tolerance", "run_external"]

theorem keys_fields (s : Settings) : s.fields.map Toml.Field.key = keys s.datasetRoot? := by
  rw [fields]
  cases s.datasetRoot? <;> rfl

theorem wellFormed_fields (defined : s.tolerance.isNaN = false) : WellFormed s.fields where
  bare := by
    rw [keys_fields]
    cases s.datasetRoot? <;> simp [keys, Toml.IsBareKey, Toml.isBareKeyChar]
  writable := by
    intro field mem
    simp only [fields, List.mem_append, List.mem_cons, List.mem_map, List.not_mem_nil, or_false, Option.mem_toList] at mem
    rcases mem with (rfl | ⟨root, -, rfl⟩) | rfl
    · exact defined
    · trivial
    · trivial
  distinct := by
    rw [keys_fields]
    cases s.datasetRoot? <;> simp [keys]

/-- Entries that hold the fields of settings describe them. A directory that is not known has no field, and a missing entry
leaves it unknown. -/
theorem fromEntries?_eq {entries : Entries} (holds : Holds entries s.fields) : fromEntries? entries = some s := by
  obtain ⟨tolerance, root?, runExternal⟩ := s
  have held := holds.held
  simp only [fields, List.forall_mem_append, List.forall_mem_cons, List.not_mem_nil, false_imp_iff, implies_true,
    and_true] at held
  obtain ⟨⟨first, middle⟩, last⟩ := held
  have root : entries.withDefault? "dataset_root" (fun v => v.text?.map some) standard.datasetRoot? = some root? := by
    cases root? with
    | some root =>
      have held : entries.get? "dataset_root" = some (.string root) := middle _ List.mem_cons_self
      rw [Entries.withDefault?_eq held]
      rfl
    | none =>
      have missing : entries.get? "dataset_root" = none := by
        refine holds.others _ ?_
        rw [keys_fields]
        simp [keys]
      rw [Entries.withDefault?_eq_default missing]
      rfl
  rw [fromEntries?, Entries.withDefault?_eq first, root, Entries.withDefault?_eq last]
  rfl

/-- What becomes of settings that are written and read is decided by the check alone. -/
theorem exists_document {library : Library} (faithful : library.Faithful) (defined : s.tolerance.isNaN = false) :
    ∃ text, s.documentBy? library = some text ∧ ofDocument text (describedBy? library) = s.checked := by
  obtain ⟨text, entries, written, read, holds⟩ := faithful s.fields (wellFormed_fields defined)
  refine ⟨text, written, ?_⟩
  rw [ofDocument, describedBy?, read, Option.bind_some, fromEntries?_eq holds]

end Settings

/-! ### Both -/

/-- The grammar is faithful, and with a faithful library requests and settings are read back from their documents: every
request with a defined radius and a count of sixty-four bits with a sign, and all settings with a valid tolerance. With a
tolerance that is zero, negative or infinite the document of settings is refused for this tolerance, and not as
unreadable. -/
theorem documents_read_back : Library.grammar.Faithful ∧ ∀ library : Library, library.Faithful →
    (∀ r : Request, r.epsilon.isNaN = false → r.minObservations ≤ 9223372036854775807 →
      ∃ text, r.document? library = some text ∧ Request.ofDocument? text library = some r) ∧
    (∀ s : Settings, isTolerance s.tolerance = true →
      ∃ text, s.documentBy? library = some text ∧ Settings.ofDocument text (Settings.describedBy? library) = .ok s) ∧
    ∀ s : Settings, (s.tolerance == 0.0) = true ∨ s.tolerance < 0.0 ∨ s.tolerance.isInf = true →
      ∃ text, s.documentBy? library = some text ∧
        Settings.ofDocument text (Settings.describedBy? library) = .error (.invalidTolerance s.tolerance) := by
  refine ⟨Toml.faithful_grammar, fun library faithful => ⟨fun r defined fits => ?_, fun s valid => ?_, fun s unusable => ?_⟩⟩
  · obtain ⟨text, entries, written, read, holds⟩ := faithful r.fields (Request.wellFormed_fields defined fits)
    refine ⟨text, written, ?_⟩
    rw [Request.ofDocument?, read, Option.bind_some, Request.fromEntries?_eq holds]
  · have defined := Binary64.isNaN_of_isFinite (isTolerance_iff.1 valid).1
    obtain ⟨text, written, read⟩ := Settings.exists_document faithful defined
    exact ⟨text, written, by rw [read, Settings.checked, if_pos valid]⟩
  · obtain ⟨defined, invalid⟩ := unusable_iff.1 unusable
    obtain ⟨text, written, read⟩ := Settings.exists_document faithful defined
    exact ⟨text, written, by rw [read, Settings.checked, invalid, if_neg Bool.false_ne_true]⟩

/-- A directory's name with a newline, a backslash, both kinds of quotes and a control character. -/
def awkwardRoot : String := String.ofList ['/', '\n', '"', '"', '"', '\\', '\'', '\'', '\'', '\x01']

/-- The greatest count and a negative zero, a name that no form of string can hold as it is, and an infinite tolerance,
written and read by the grammar. -/
theorem documents_read_back_awkward :
    (∃ text, (Request.mk (-0.0) 9223372036854775807 .all).document? = some text ∧
      Request.ofDocument? text = some ⟨-0.0, 9223372036854775807, .all⟩) ∧
    (∃ text, (Request.mk (-Decimal.infinite) 0 .none).document? = some text ∧
      Request.ofDocument? text = some ⟨-Decimal.infinite, 0, .none⟩) ∧
    (∃ text, (Settings.mk 1e-4 (some awkwardRoot) true).documentBy? .grammar = some text ∧
      Settings.ofDocument text = .ok ⟨1e-4, some awkwardRoot, true⟩) ∧
    ∃ text, (Settings.mk Decimal.infinite none false).documentBy? .grammar = some text ∧
      Settings.ofDocument text = .error (.invalidTolerance Decimal.infinite) := by
  obtain ⟨requests, valid, invalid⟩ := documents_read_back.2 .grammar documents_read_back.1
  refine ⟨?_, ?_, ?_, ?_⟩
  · exact requests ⟨-0.0, 9223372036854775807, .all⟩ (by decide +kernel) (by decide)
  · exact requests ⟨-Decimal.infinite, 0, .none⟩ (by decide +kernel) (by decide)
  · exact valid ⟨1e-4, some awkwardRoot, true⟩ (by decide +kernel)
  · exact invalid ⟨Decimal.infinite, none, false⟩ (.inr (.inr (by decide +kernel)))

end DensityAudit
