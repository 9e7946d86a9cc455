import DensityAudit.Proofs.Audit.Gate
import DensityAudit.Proofs.Settings.Environment
import DensityAudit.Settings.Change

/-!
# Valid settings stay valid

A tolerance comes into settings from a document, a variable or a number, and each way has a check of its own. So whatever
texts are read as, no change makes settings invalid (`Valid.after`), no number of changes does (`Valid.afterAll`), and an
audit of quality under settings that were come by in this way never fails for their tolerance
(`Valid.root_ne_invalidTolerance`).
-/

namespace DensityAudit.Settings

/-- Quality comparisons can accept something under the tolerance of the settings. -/
structure Valid (s : Settings) : Prop where
  finite : s.tolerance.isFinite = true
  positive : 0.0 < s.tolerance

variable {s s' : Settings} {readers : Readers}

/-- The test of the tolerance decides whether settings are valid. -/
theorem isTolerance_iff_valid : isTolerance s.tolerance = true ↔ s.Valid :=
  isTolerance_iff.trans ⟨fun ⟨finite, positive⟩ => ⟨finite, positive⟩, fun valid => ⟨valid.finite, valid.positive⟩⟩

/-! ### One change -/

theorem valid_standard : standard.Valid := isTolerance_iff_valid.1 (by decide +kernel)

/-- The check lets through valid settings only, and as they are. -/
theorem checked_eq_ok_iff : s.checked = .ok s' ↔ s = s' ∧ s.Valid := by
  rw [checked, ← isTolerance_iff_valid]
  split
  case isTrue valid => rw [Except.ok.injEq, and_iff_left valid]
  case isFalse invalid => exact iff_of_false nofun fun ⟨_, valid⟩ => invalid valid

/-- Whatever documents are read as, they make the valid settings that they describe, and no others. -/
theorem ofDocument_eq_ok_iff {text : String} {read? : String → Option Settings} :
    ofDocument text read? = .ok s ↔ read? text = some s ∧ s.Valid := by
  rw [ofDocument]
  cases read? text with
  | none =>
    constructor <;> intro made
    · cases made
    · cases made.1
  | some described =>
    rw [checked_eq_ok_iff, Option.some.injEq]
    exact and_congr_right fun same => by rw [same]

/-- Only a tolerance that makes the settings valid is taken. -/
theorem withTolerance_eq_ok_iff {tolerance : Float} :
    s.withTolerance tolerance = .ok s' ↔ { s with tolerance := tolerance } = s' ∧ s'.Valid := by
  rw [withTolerance]
  split
  case isTrue valid =>
    rw [Except.ok.injEq, iff_self_and]
    rintro rfl
    exact isTolerance_iff_valid.1 valid
  case isFalse invalid =>
    refine iff_of_false nofun ?_
    rintro ⟨rfl, valid⟩
    have accepted := isTolerance_iff_valid.2 valid
    exact invalid accepted

namespace Valid

/-- Whatever numerals are read as, a variable is either accepted or changes nothing. -/
theorem override (valid : s.Valid) (environment : Environment) (number? : String → Option Float) :
    (s.override environment number?).Valid := by
  have governed := (overridden number? environment s).tolerance
  by_cases accepted : ∃ text v, environment toleranceVariable = some text ∧ number? text = some v ∧ v.isFinite = true ∧ 0.0 < v
  · obtain ⟨text, v, set, read, finite, positive⟩ := accepted
    have taken := governed.taken text v set ⟨read, finite, positive⟩
    exact ⟨taken ▸ finite, taken ▸ positive⟩
  · have kept := governed.kept fun text v set accepts => accepted ⟨text, v, set, accepts⟩
    exact ⟨kept ▸ valid.finite, kept ▸ valid.positive⟩

/-- No change makes valid settings invalid. -/
theorem apply (valid : s.Valid) {change : Change} (made : change.apply s readers = .ok s') : s'.Valid := by
  cases change with
  | standard =>
    cases made
    exact valid_standard
  | document text => exact (ofDocument_eq_ok_iff.1 made).2
  | environment values =>
    cases made
    exact valid.override values readers.number?
  | tolerance value => exact (withTolerance_eq_ok_iff.1 made).2
  | datasetRoot root =>
    cases made
    exact ⟨valid.finite, valid.positive⟩

/-- A change that fails is as good as none. -/
theorem after (valid : s.Valid) (change : Change) (readers : Readers) : (s.after change readers).Valid := by
  rw [Settings.after]
  split
  case h_1 changed made => exact valid.apply made
  case h_2 => exact valid

/-! ### Any number of changes -/

/-- No sequence of changes makes valid settings invalid. -/
theorem afterAll (valid : s.Valid) (changes : List Change) (readers : Readers) : (s.afterAll changes readers).Valid := by
  induction changes generalizing s with
  | nil => exact valid
  | cons change rest ih => exact ih (valid.after change readers)

/-- An audit of quality that brings no tolerance does not fail for that of valid settings. -/
theorem root_ne_invalidTolerance {σ : Type} {engine : Engine σ} {t : Trial} {reference : Float} {state state' : σ}
    {f : Failure} (valid : s.Valid)
    (failed : ((Auditor.mk engine s).checkQuality t reference none).Fails state f state') (v : Float) :
    f.root ≠ .invalidTolerance v := by
  refine Auditor.root_ne_invalidTolerance reference ?_ failed v
  exact isTolerance_iff_valid.2 valid

end Valid

/-- The settings are valid, pass their own check, and audits of quality can go by them. -/
structure Usable (s : Settings) : Prop where
  valid : s.Valid
  checked : s.checked = .ok s
  /-- No audit of quality fails for its tolerance, unless it brings one of its own. -/
  audits : ∀ (σ : Type) (engine : Engine σ) (t : Trial) (reference : Float) (state state' : σ) (f : Failure),
    ((Auditor.mk engine s).checkQuality t reference none).run.run state = (.error f, state') →
      ∀ v, f.root ≠ .invalidTolerance v

/-- Valid settings are usable. -/
theorem Valid.usable (valid : s.Valid) : s.Usable where
  valid := valid
  checked := checked_eq_ok_iff.2 ⟨rfl, valid⟩
  audits _ _ _ _ _ _ _ failed := valid.root_ne_invalidTolerance failed

/-- Whatever documents and numerals are read as, settings stay usable under every sequence of changes. An environment
changes each setting through the setting's own variable only, and may be read again, or in two parts in either order. -/
theorem settings_usable (readers : Readers) :
    (∀ changes : List Change, (standard.afterAll changes readers).Usable) ∧
      ∀ (s : Settings) (environment : Environment),
        Overridden readers.number? environment s (s.override environment readers.number?) ∧
        (s.override environment readers.number?).override environment readers.number? =
          s.override environment readers.number? ∧
        ∀ part rest : Environment, environment.SharedOut part rest →
          (s.override part readers.number?).override rest readers.number? = s.override environment readers.number? ∧
          (s.override rest readers.number?).override part readers.number? = s.override environment readers.number? := by
  refine ⟨fun changes => (valid_standard.afterAll changes readers).usable, fun s environment => ⟨?_, ?_, ?_⟩⟩
  · exact overridden readers.number? environment s
  · exact override_override s environment readers.number?
  · intro part rest shared
    exact ⟨override_of_sharedOut shared s readers.number?, override_of_sharedOut shared.symm s readers.number?⟩

/-! ### Readers that let anything through -/

/-- Every document has an infinite tolerance, and every numeral but one is not a number. -/
def lenient : Readers where
  document? _ := some ⟨Decimal.infinite, none, true⟩
  number? text := some (if text = "0.5" then 0.5 else Decimal.undefined)

/-- A usable tolerance and switch, and a directory without a name. -/
def unnamedRoot : Environment := fun name =>
  if name = toleranceVariable then some "0.5"
  else if name = datasetRootVariable then some ""
  else if name = runExternalVariable then some "1"
  else none

/-- The settings after three changes that bring unusable tolerances, and an environment. -/
def hardlyUsable : Settings :=
  standard.afterAll [.document "", .environment fun _ => some "nan", .tolerance Decimal.infinite, .environment unnamedRoot]
    lenient

theorem settings_usable_lenient :
    (hardlyUsable.Usable ∧ ∃ f,
      ((Auditor.mk (.failing .emptyInput) hardlyUsable).checkQuality pairTrial 0.5 none).run.run () = (.error f, ()) ∧
        ∀ v, f.root ≠ .invalidTolerance v) ∧
      ((standard.override unnamedRoot lenient.number?).tolerance = 0.5 ∧
        (standard.override unnamedRoot lenient.number?).datasetRoot? = none ∧
        (standard.override unnamedRoot lenient.number?).runExternal = true) ∧
      (standard.override (fun name => if name = toleranceVariable then none else unnamedRoot name) lenient.number?).override
          (fun name => if name = toleranceVariable then unnamedRoot name else none) lenient.number? =
        standard.override unnamedRoot lenient.number? := by
  obtain ⟨usable, environments⟩ := settings_usable lenient
  have hardly : hardlyUsable.Usable := usable _
  have failed : ((Auditor.mk (.failing .emptyInput) hardlyUsable).checkQuality pairTrial 0.5 none).run.run () =
      (.error (.inContext pairTrial.context (.engine .emptyInput)), ()) := by
    refine Auditor.run_checkQuality_of_error 0.5 ?_ rfl
    exact isTolerance_iff_valid.2 hardly.valid
  obtain ⟨governed, -, parts⟩ := environments standard unnamedRoot
  refine ⟨⟨hardly, _, failed, hardly.audits _ _ _ _ _ _ _ failed⟩, ⟨?_, ?_, ?_⟩, (parts _ _ fun name => ?_).2⟩
  · exact governed.tolerance.taken "0.5" 0.5 rfl ⟨rfl, by decide +kernel, by decide +kernel⟩
  · refine governed.datasetRoot.kept fun text v set accepted => accepted.1 ?_
    cases set
    rfl
  · exact governed.runExternal.taken "1" true rfl (.inl ⟨.inr rfl, rfl⟩)
  · by_cases named : name = toleranceVariable
    · exact .inl ⟨if_pos named, if_pos named⟩
    · exact .inr ⟨if_neg named, if_neg named⟩

end DensityAudit.Settings
