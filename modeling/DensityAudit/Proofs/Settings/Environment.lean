import DensityAudit.Proofs.Compare.Tolerance
import DensityAudit.Settings.Environment

/-!
# What environment variables change

Each setting has a variable of its own, and `Governed` says what a variable does to its setting: an accepted value is
taken, and without one the setting stays. This leaves one outcome (`Governed.unique`), is not changed by another reading
of the same variable (`Governed.again`), and is passed on by an environment in which the variable is not set
(`Governed.join`). The settings are three such values (`Overridden`), so an environment may be read twice, or in two parts
and in either order.
-/

namespace DensityAudit.Settings

/-! ### One variable -/

/-- What a variable does to its setting, whatever the other variables are. -/
structure Governed {α : Type} (text? : Option String) (Accepts : String → α → Prop) (before after : α) : Prop where
  /-- A value that is accepted is taken. -/
  taken : ∀ text v, text? = some text → Accepts text v → after = v
  /-- Without one the setting stays. -/
  kept : (∀ text v, text? = some text → ¬ Accepts text v) → after = before

section

variable {α : Type} {text? : Option String} {Accepts : String → α → Prop} {x y z : α}

/-- What a reading of the text yields, or else the setting as it was, is governed by the variable. -/
theorem governed_getD {use? : String → Option α} (uses : ∀ text v, use? text = some v ↔ Accepts text v) (x : α) :
    Governed text? Accepts x ((text?.bind use?).getD x) where
  taken text v set accepted := by rw [set, Option.bind_some, (uses text v).2 accepted, Option.getD_some]
  kept rejected := by
    have unused : text?.bind use? = none := Option.bind_eq_none_iff.2 fun text set =>
      Option.eq_none_iff_forall_ne_some.2 fun v used => rejected text v set ((uses text v).1 used)
    rw [unused, Option.getD_none]

/-- A variable leaves one outcome. -/
theorem Governed.unique (one : Governed text? Accepts x y) (other : Governed text? Accepts x z) : y = z := by
  by_cases accepted : ∃ text v, text? = some text ∧ Accepts text v
  · obtain ⟨text, v, set, accepts⟩ := accepted
    rw [one.taken text v set accepts, other.taken text v set accepts]
  · have rejected : ∀ text v, text? = some text → ¬ Accepts text v :=
      fun text v set accepts => accepted ⟨text, v, set, accepts⟩
    rw [one.kept rejected, other.kept rejected]

/-- Another reading of the variable changes nothing. -/
theorem Governed.again (first : Governed text? Accepts x y) : Governed text? Accepts y y :=
  ⟨first.taken, fun _ => rfl⟩

/-- A variable that is not set changes nothing. -/
theorem Governed.of_unset (unset : Governed none Accepts x y) : y = x :=
  unset.kept fun _ _ set => nomatch set

/-- Of two readings one finds the variable, and the other finds it not set. -/
theorem Governed.join {text₁? text₂? : Option String}
    (shared : text₁? = text? ∧ text₂? = none ∨ text₁? = none ∧ text₂? = text?)
    (first : Governed text₁? Accepts x y) (second : Governed text₂? Accepts y z) : Governed text? Accepts x z := by
  rcases shared with ⟨rfl, rfl⟩ | ⟨rfl, rfl⟩
  · obtain rfl := second.of_unset
    exact first
  · obtain rfl := first.of_unset
    exact second

end

/-! ### All variables -/

/-- A switch is turned on by a word or a digit, and off by another. -/
def AcceptsSwitch (text : String) (on : Bool) : Prop :=
  (text = "true" ∨ text = "1") ∧ on = true ∨ (text = "false" ∨ text = "0") ∧ on = false

/-- The settings before and after an environment is read: every setting is governed by its own variable. -/
structure Overridden (number? : String → Option Float) (environment : Environment) (before after : Settings) : Prop where
  tolerance : Governed (environment toleranceVariable)
    (fun text v => number? text = some v ∧ v.isFinite = true ∧ 0.0 < v) before.tolerance after.tolerance
  datasetRoot : Governed (environment datasetRootVariable)
    (fun text root? => text ≠ "" ∧ root? = some text) before.datasetRoot? after.datasetRoot?
  runExternal : Governed (environment runExternalVariable) AcceptsSwitch before.runExternal after.runExternal

/-- Two environments share out the variables of one: each is set in one of them at most, and to its value. -/
def Environment.SharedOut (environment part rest : Environment) : Prop :=
  ∀ name, part name = environment name ∧ rest name = none ∨ part name = none ∧ rest name = environment name

variable {number? : String → Option Float} {environment part rest : Environment} {s s' s'' : Settings}

theorem Environment.SharedOut.symm (shared : environment.SharedOut part rest) : environment.SharedOut rest part :=
  fun name => (shared name).symm.imp And.symm And.symm

/-- A tolerance is taken from a text iff it is read as a number that is finite and above zero. -/
theorem usableTolerance?_eq_some_iff {text : String} {v : Float} :
    usableTolerance? number? text = some v ↔ number? text = some v ∧ v.isFinite = true ∧ 0.0 < v := by
  rw [usableTolerance?, Option.filter_eq_some_iff, isTolerance_iff]

theorem usableRoot?_eq_some_iff {text root : String} : usableRoot? text = some root ↔ text ≠ "" ∧ text = root := by
  rw [usableRoot?, Ne, ← String.isEmpty_iff]
  split
  case isTrue empty => exact iff_of_false nofun fun ⟨named, _⟩ => named empty
  case isFalse named => rw [Option.some.injEq, and_iff_right named]

theorem usableSwitch?_eq_some_iff {text : String} {on : Bool} : usableSwitch? text = some on ↔ AcceptsSwitch text on := by
  rw [usableSwitch?, AcceptsSwitch]
  split
  case isTrue turnedOn =>
    have notOff : ¬ (text = "false" ∨ text = "0") := by rcases turnedOn with rfl | rfl <;> decide
    rw [Option.some.injEq, and_iff_right turnedOn, or_iff_left (mt And.left notOff), eq_comm]
  case isFalse notOn =>
    rw [or_iff_right (mt And.left notOn)]
    split
    case isTrue turnedOff => rw [Option.some.injEq, and_iff_right turnedOff, eq_comm]
    case isFalse notOff => exact iff_of_false nofun (mt And.left notOff)

/-- A directory that is used is a value of its setting, in which there may also be none. -/
theorem governed_or_root {text? : Option String} (root? : Option String) :
    Governed text? (fun text root? => text ≠ "" ∧ root? = some text) root? ((text?.bind usableRoot?).or root?) := by
  have same : (text?.bind usableRoot?).or root? = (text?.bind (Option.map some ∘ usableRoot?)).getD root? := by
    rw [← Option.map_bind]
    cases text?.bind usableRoot? <;> rfl
  rw [same]
  refine governed_getD (fun text v => ?_) root?
  rw [Function.comp_apply, Option.map_eq_some_iff]
  constructor
  · rintro ⟨root, used, rfl⟩
    obtain ⟨named, rfl⟩ := usableRoot?_eq_some_iff.1 used
    exact ⟨named, rfl⟩
  · rintro ⟨named, rfl⟩
    exact ⟨text, usableRoot?_eq_some_iff.2 ⟨named, rfl⟩, rfl⟩

/-- Each setting is governed by its own variable. -/
theorem overridden (number? : String → Option Float) (environment : Environment) (s : Settings) :
    Overridden number? environment s (s.override environment number?) where
  tolerance := governed_getD (fun _ _ => usableTolerance?_eq_some_iff) _
  datasetRoot := governed_or_root _
  runExternal := governed_getD (fun _ _ => usableSwitch?_eq_some_iff) _

/-- What an environment makes of settings is determined. -/
theorem Overridden.unique (one : Overridden number? environment s s') (other : Overridden number? environment s s'') :
    s' = s'' := by
  cases s'
  cases s''
  rw [mk.injEq]
  exact ⟨one.tolerance.unique other.tolerance, one.datasetRoot.unique other.datasetRoot,
    one.runExternal.unique other.runExternal⟩

/-- Reading an environment twice is reading it once. -/
theorem Overridden.again (first : Overridden number? environment s s') : Overridden number? environment s' s' :=
  ⟨first.tolerance.again, first.datasetRoot.again, first.runExternal.again⟩

/-- Two parts of an environment, read in turn, are the whole. -/
theorem Overridden.join (shared : environment.SharedOut part rest) (first : Overridden number? part s s')
    (second : Overridden number? rest s' s'') : Overridden number? environment s s'' :=
  ⟨first.tolerance.join (shared _) second.tolerance, first.datasetRoot.join (shared _) second.datasetRoot,
    first.runExternal.join (shared _) second.runExternal⟩

/-- An environment that is read twice is read once. -/
theorem override_override (s : Settings) (environment : Environment) (number? : String → Option Float) :
    (s.override environment number?).override environment number? = s.override environment number? :=
  (overridden number? environment _).unique (overridden number? environment s).again

/-- An environment may be read in two parts. -/
theorem override_of_sharedOut (shared : environment.SharedOut part rest) (s : Settings) (number? : String → Option Float) :
    (s.override part number?).override rest number? = s.override environment number? :=
  (Overridden.join shared (overridden _ _ s) (overridden _ _ _)).unique (overridden _ _ s)

end DensityAudit.Settings
