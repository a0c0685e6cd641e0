import DependencyAudit.CommandLine.Configuration
import DependencyAudit.Proofs.Acceptance
import DependencyAudit.Proofs.Outcome

/-!
What overriding makes of a configuration. Each field of the result is decided by the last override
of its own name that has an effect, or else is kept (`of_override`). So two overrides of one
configuration agree in the fields about which they say the same.

Main statement: `configure?_alike`. Command lines that have the same switches for the configuration
come to configurations with the same report and the same buckets, whatever other switches they
have: what those override is neither (`Alike.sameMatter`).
-/

namespace DependencyAudit

open Inspection Schema

/-! ## Fields -/

namespace Data

theorem lastField?_cons (name other : String) (d : Data) (fields : List (String × Data)) :
    lastField? name ((other, d) :: fields) =
      (lastField? name fields).or (if other = name then some d else none) := by
  unfold lastField?
  rw [List.reverse_cons, List.find?_append, Option.map_or]
  by_cases h : other = name <;> simp [h]

end Data

/-- A check of a field looks at nothing but the last field of its name. -/
theorem Schema.field_congr {α : Type} {fields fields' : List (String × Data)} {name : String}
    (h : Data.lastField? name fields = Data.lastField? name fields') (absent : Checked α)
    (check : Data → Checked α) :
    field fields name absent check = field fields' name absent check := by
  rw [field, field, h]

namespace Config

variable {c c' : Config} {o o' : Overrides}

theorem lastField?_effective_cons (name other : String) (d : Data) (o : Overrides) :
    Data.lastField? name (effective ((other, d) :: o)) =
      (Data.lastField? name (effective o)).or
        (if other = name ∧ d.isVoid = false then some d else none) := by
  unfold effective
  cases hvoid : d.isVoid with
  | true => simp [hvoid]
  | false => simp [hvoid, Data.lastField?_cons]

/-- The report and the buckets of a configuration are those that the checks of their fields give. -/
theorem of_check {resolution : Checked Path} {kept : Preferences} {fields : List (String × Data)}
    (h : check resolution kept fields = .ok c) :
    field fields "resolution" resolution path = .ok c.resolution ∧
      field fields "dependency_buckets" (.ok kept.buckets) (orNull (listOf .notSequence text)) =
        .ok c.buckets := by
  obtain ⟨h, _⟩ := alsoReporting_eq_ok_iff.mp h
  obtain ⟨r, hr, rfl⟩ := map_eq_ok_iff.mp h
  obtain ⟨hplace, hr⟩ := both_eq_ok_iff.mp hr
  obtain ⟨_, hr⟩ := both_eq_ok_iff.mp hr
  obtain ⟨_, hr⟩ := both_eq_ok_iff.mp hr
  obtain ⟨hbuckets, _⟩ := both_eq_ok_iff.mp hr
  exact ⟨hplace, hbuckets⟩

theorem of_override (h : c.override o = .ok c') :
    field (effective o) "resolution" (.ok c.resolution) path = .ok c'.resolution ∧
      field (effective o) "dependency_buckets" (.ok c.buckets)
        (orNull (listOf .notSequence text)) = .ok c'.buckets := by
  unfold override at h
  split at h
  · -- nothing has an effect, and both fields are kept
    rename_i hnone
    obtain rfl := Except.ok.inj h
    rw [List.isEmpty_iff.mp hnone]
    exact ⟨rfl, rfl⟩
  · split at h
    · cases h
    · rename_i changed hchanged
      obtain rfl := Except.ok.inj h
      exact of_check hchanged

/-- Overrides with the same last effective word on the report and on the buckets. -/
def SameMatter (o o' : Overrides) : Prop :=
  Data.lastField? "resolution" (effective o) = Data.lastField? "resolution" (effective o') ∧
    Data.lastField? "dependency_buckets" (effective o) =
      Data.lastField? "dependency_buckets" (effective o')

theorem SameMatter.override_alike {base : Config} (hsame : SameMatter o o')
    (h : base.override o = .ok c) (h' : base.override o' = .ok c') :
    c.resolution = c'.resolution ∧ c.buckets = c'.buckets := by
  obtain ⟨hplace, hbuckets⟩ := of_override h
  obtain ⟨hplace', hbuckets'⟩ := of_override h'
  rw [field_congr hsame.1] at hplace
  rw [field_congr hsame.2] at hbuckets
  exact ⟨Except.ok.inj (hplace.symm.trans hplace'), Except.ok.inj (hbuckets.symm.trans hbuckets')⟩

end Config

/-! ## Command lines -/

namespace CommandLine

variable {a a' : Arguments} {outputs : List Path} {disk : Disk}

/-- The switches that say which configuration is meant have the same values. -/
def Alike (a a' : Arguments) : Prop := ∀ s ∈ Command.configSwitches, a.values s = a'.values s

/-- What a command line gives to override, and by what, apart from its other switches: the paths of
the compiled outputs, and the configuration of the file or of the named report. -/
def basis (a : Arguments) : Inspection (List Path × Option (Config × Overrides)) := do
  let outputs ← absoluteAll (a.values .output)
  match ← configFile? a with
  | some p =>
    let c ← Config.load p
    let report ← namedReport? a
    return (outputs, some (c, [("resolution", overrideText (report.map Path.text))]))
  | none =>
    match ← namedReport? a with
    | none => return (outputs, none)
    | some report => return (outputs, some ({ resolution := report }, []))

/-- The configuration that is meant, made of the basis. -/
def ofBasis (a : Arguments) :
    List Path × Option (Config × Overrides) → Inspection (Option Config)
  | (_, none) => return none
  | (outputs, some (base, place)) => do
    let c ← Inspection.ofExcept (base.override (place ++ overridesOf a outputs))
    return some c

theorem configure?_eq (a : Arguments) : configure? a = (basis a).bind (ofBasis a) := by
  unfold configure? basis
  simp only [bind_eq, bind_assoc]
  congr 1
  funext outputs
  congr 1
  funext file
  cases file with
  | some p =>
    simp only [bind_assoc]
    rfl
  | none =>
    simp only [bind_assoc]
    congr 1
    funext report
    cases report <;> rfl

theorem Alike.basis_eq (h : Alike a a') : basis a = basis a' := by
  have hvalues : ∀ s, s ∈ Command.configSwitches → a.value? s = a'.value? s := by
    intro s hs
    rw [Arguments.value?, Arguments.value?, h s hs]
  have hfile : configFile? a = configFile? a' := by
    simp only [configFile?, filled?, hvalues .config (by decide)]
  have hreport : namedReport? a = namedReport? a' := by
    simp only [namedReport?, filled?, hvalues .resolution (by decide)]
  simp only [basis, h .output (by decide), hfile, hreport]

/-- What other switches override is not the report, and not the buckets. -/
theorem Alike.sameMatter (h : Alike a a') (place : Overrides) (outputs : List Path) :
    Config.SameMatter (place ++ overridesOf a outputs) (place ++ overridesOf a' outputs) := by
  induction place with
  | nil =>
    simp [Config.SameMatter, overridesOf, Config.lastField?_effective_cons,
      h .bucket (by decide)]
  | cons entry place ih =>
    obtain ⟨other, d⟩ := entry
    obtain ⟨hplace, hbuckets⟩ := ih
    simp only [Config.SameMatter, List.cons_append, Config.lastField?_effective_cons, hplace,
      hbuckets, and_self]

theorem Alike.configure?_alike (h : Alike a a') {c c' : Config}
    (hc : (configure? a).outcome disk = .ok (some c))
    (hc' : (configure? a').outcome disk = .ok (some c')) :
    c.resolution = c'.resolution ∧ c.buckets = c'.buckets := by
  rw [configure?_eq] at hc hc'
  rw [← h.basis_eq] at hc'
  obtain ⟨found, hfound, hc⟩ := outcome_bind_eq_ok.mp hc
  obtain ⟨found', hfound', hc'⟩ := outcome_bind_eq_ok.mp hc'
  obtain rfl := Except.ok.inj (hfound.symm.trans hfound')
  obtain ⟨outputs, basis⟩ := found
  cases basis with
  | none => cases hc
  | some basis =>
    obtain ⟨base, place⟩ := basis
    obtain ⟨d, hd, hc⟩ := outcome_bind_eq_ok.mp hc
    obtain ⟨d', hd', hc'⟩ := outcome_bind_eq_ok.mp hc'
    obtain rfl := Option.some.inj (Except.ok.inj hc)
    obtain rfl := Option.some.inj (Except.ok.inj hc')
    rw [outcome_ofExcept] at hd hd'
    exact (h.sameMatter place outputs).override_alike hd hd'

end CommandLine

end DependencyAudit
