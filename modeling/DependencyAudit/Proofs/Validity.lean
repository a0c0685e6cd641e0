import DependencyAudit.Proofs.Ascending
import DependencyAudit.Proofs.Equality
import DependencyAudit.Proofs.Overriding

/-!
Valid configurations, and what overriding makes of them. A check succeeds exactly if the checks of
the single fields do and no other field is there (`check_eq_ok_iff`). So a configuration that was
read is valid, and a step of overriding keeps it so (`valid_of_override`); the step decides each
field that it names, and keeps the others (`override_iff_follows`).

A second step sees the fields that the first has named as kept ones, and its own as before. Both
are one step with the values of the first, updated by those of the second (`override_override`),
down to the issues where the second fails.

Main statement: `overriding_valid_and_composes`, on whatever configuration is reached from one that
was read.
-/

namespace DependencyAudit

open Schema

/-! ## Fields of lists that are put together -/

namespace Data

variable {name : String} {d : Data} {fields more : List (String × Data)}

theorem lastField?_append (name : String) (fields more : List (String × Data)) :
    lastField? name (fields ++ more) = (lastField? name more).or (lastField? name fields) := by
  unfold lastField?
  rw [List.reverse_append, List.find?_append, Option.map_or]

theorem mem_of_lastField? (h : lastField? name fields = some d) : (name, d) ∈ fields := by
  obtain ⟨⟨other, value⟩, hfind, rfl⟩ := Option.map_eq_some_iff.mp h
  have hname : other = name := by simpa using List.find?_some hfind
  exact hname ▸ List.mem_reverse.mp (List.mem_of_find?_eq_some hfind)

theorem lastField?_map (name : String) (f : String → Data → Data)
    (fields : List (String × Data)) :
    lastField? name (fields.map fun x => (x.1, f x.1 x.2)) =
      (lastField? name fields).map (f name) := by
  induction fields with
  | nil => rfl
  | cons x fields ih =>
    obtain ⟨other, d⟩ := x
    rw [List.map_cons, lastField?_cons, lastField?_cons, ih, Option.map_or]
    by_cases h : other = name <;> simp [h]

theorem lastField?_filter (name : String) (p : String → Bool) (fields : List (String × Data)) :
    lastField? name (fields.filter fun x => p x.1) =
      if p name then lastField? name fields else none := by
  induction fields with
  | nil => simp [lastField?]
  | cons x fields ih =>
    obtain ⟨other, d⟩ := x
    by_cases hother : other = name
    · subst hother
      by_cases hp : p other <;> simp [hp, lastField?_cons, ih]
    · by_cases hp : p other <;> simp [hp, lastField?_cons, ih, hother]

end Data

namespace Schema

variable {α β γ : Type}

theorem both_map_left (f : α → γ) (a : Checked α) (b : Checked β) :
    both (a.map f) b = (both a b).map fun r => (f r.1, r.2) := by
  cases a <;> cases b <;> rfl

theorem both_map_right (f : β → γ) (a : Checked α) (b : Checked β) :
    both a (b.map f) = (both a b).map fun r => (r.1, f r.2) := by
  cases a <;> cases b <;> rfl

theorem map_map (f : α → β) (g : β → γ) (c : Checked α) :
    (c.map f).map g = c.map fun a => g (f a) := by
  cases c <;> rfl

theorem unknownFields_eq_nil_iff {known : List String} {fields : List (String × Data)} :
    unknownFields known fields = [] ↔ ∀ f ∈ fields, f.1 ∈ known := by
  unfold unknownFields
  rw [List.map_eq_nil_iff, List.eq_nil_iff_forall_not_mem]
  simp only [List.mem_eraseDups, List.mem_filter, List.mem_map, Bool.not_eq_true',
    ← Bool.not_eq_true, List.contains_iff_mem, not_and, not_not]
  refine ⟨fun h f hf => h f.1 ⟨f, hf, rfl⟩, ?_⟩
  rintro h _ ⟨f, hf, rfl⟩
  exact h f hf

theorem field_eq_ok_iff {fields : List (String × Data)} {name : String} {old new : α}
    {read : Data → Checked α} :
    field fields name (.ok old) read = .ok new ↔
      match Data.lastField? name fields with
      | none => new = old
      | some d => read d = .ok new := by
  rw [field, within_eq_ok_iff]
  cases Data.lastField? name fields with
  | none => simp [eq_comm]
  | some d => rfl

end Schema

/-! ## What overrides say together -/

/-- Values for fields, updated by others: a field keeps its place and takes the last of the other
values for it, and fields that come only with the others stand behind. -/
def updated (values others : Overrides) : Overrides :=
  values.map (fun f => (f.1, (Data.lastField? f.1 others).getD f.2)) ++
    others.filter fun f => (Data.lastField? f.1 values).isNone

theorem lastField?_updated (name : String) (values others : Overrides) :
    Data.lastField? name (updated values others) =
      (Data.lastField? name others).or (Data.lastField? name values) := by
  unfold updated
  rw [Data.lastField?_append,
    Data.lastField?_map name (fun other d => (Data.lastField? other others).getD d),
    Data.lastField?_filter name fun other => (Data.lastField? other values).isNone]
  cases Data.lastField? name values with
  | none => simp
  | some d => cases Data.lastField? name others <;> rfl

theorem updated_nil_left (others : Overrides) : updated [] others = others := by
  unfold updated
  rw [List.map_nil, List.nil_append, List.filter_eq_self]
  exact fun _ _ => rfl

theorem updated_nil_right (values : Overrides) : updated values [] = values := by
  unfold updated
  rw [List.filter_nil, List.append_nil]
  exact List.map_id values

/-- Where the values are for known fields, the unknown ones are those of the other values. -/
theorem unknownFields_updated {known : List String} {values others : Overrides}
    (h : unknownFields known values = []) :
    unknownFields known (updated values others) = unknownFields known others := by
  rw [unknownFields_eq_nil_iff] at h
  have hfirst : ((values.map fun f => (f.1, (Data.lastField? f.1 others).getD f.2)).map
      Prod.fst).filter (fun name => !known.contains name) = [] := by
    rw [List.map_map, List.filter_eq_nil_iff]
    intro name hname
    obtain ⟨f, hf, rfl⟩ := List.mem_map.mp hname
    simpa using h f hf
  -- a field that is not known is not among the values, so nothing replaces it
  have hothers : ((others.filter fun f => (Data.lastField? f.1 values).isNone).map
      Prod.fst).filter (fun name => !known.contains name) =
      (others.map Prod.fst).filter fun name => !known.contains name := by
    rw [List.filter_map, List.filter_map, List.filter_filter]
    congr 1
    apply List.filter_congr
    intro f _
    by_cases hknown : f.1 ∈ known
    · simp [hknown]
    · have hnone : Data.lastField? f.1 values = none := by
        rw [Option.eq_none_iff_forall_ne_some]
        intro d hd
        exact hknown (h (f.1, d) (Data.mem_of_lastField? hd))
      simp [hnone]
  unfold unknownFields updated
  rw [List.map_append, List.filter_append, hfirst, hothers, List.nil_append]

/-- A field that was read from the values, or kept, is there for the others like a kept one. -/
theorem Schema.field_updated {α : Type} {values others : Overrides} {name : String}
    {absent : Checked α} {read : Data → Checked α} {mid : α}
    (h : field values name absent read = .ok mid) :
    field (updated values others) name absent read = field others name (.ok mid) read := by
  rw [field, within_eq_ok_iff] at h
  rw [field, field, lastField?_updated]
  cases Data.lastField? name others with
  | none => rw [Option.none_or, h]
  | some d => rfl

/-! ## Valid configurations -/

/-- Some character of the text is not blank. -/
def NotBlank (s : String) : Prop := ∃ c ∈ s.toList, ¬ Text.isBlank c

theorem isBlankText_eq_false_iff {s : String} :
    Text.isBlankText s.toList = false ↔ NotBlank s := by
  simp [Text.isBlankText, NotBlank]

/-- A text that can be ignored as an identity: not blank, and with at most one colon. -/
structure Ignorable (entry : String) : Prop where
  notBlank : NotBlank entry
  oneColon : entry.toList.count ':' ≤ 1

namespace Config

variable {c c' c₁ : Config} {o o' : Overrides} {resolution : Checked Path} {kept : Preferences}
  {fields : List (String × Data)}

theorem isIgnorable_iff {entry : String} : isIgnorable entry ↔ Ignorable entry := by
  simp only [isIgnorable, Bool.and_eq_true, Bool.not_eq_true', isBlankText_eq_false_iff,
    decide_eq_true_eq]
  exact ⟨fun h => ⟨h.1, h.2⟩, fun h => ⟨h.1, h.2⟩⟩

theorem ignoreRule_eq_none_iff {entries : List String} :
    ignoreRule entries = none ↔ ∀ entry ∈ entries, Ignorable entry := by
  simp only [ignoreRule, Option.map_eq_none_iff, List.find?_eq_none, Bool.not_eq_true',
    Bool.not_eq_false, isIgnorable_iff]

theorem bucketRule_eq_none_iff {name : String} : bucketRule name = none ↔ NotBlank name := by
  rw [← isBlankText_eq_false_iff, bucketRule]
  cases Text.isBlankText name.toList <;> simp

/-- What the checks of a configuration's own fields guarantee. -/
structure Valid (c : Config) : Prop where
  ignorable : ∀ entry ∈ c.ignore, Ignorable entry
  bucket : NotBlank c.bucket
  ascending : c.ignore.Pairwise (· < ·)

def identities (d : Data) : Checked (List String) := ensuring ignoreRule (listOf .notSet text d)

def bucketName (d : Data) : Checked String := ensuring bucketRule (text d)

/-- What the fields of a configuration come from, where the check of it succeeds. -/
structure Checks (resolution : Checked Path) (kept : Preferences) (fields : List (String × Data))
    (c : Config) : Prop where
  known : unknownFields fieldNames fields = []
  resolution : field fields "resolution" resolution path = .ok c.resolution
  project : field fields "project" (.ok kept.project) (orNull text) = .ok c.project
  buildFile : field fields "build_file" (.ok kept.buildFile) (orNull text) = .ok c.buildFile
  buckets : field fields "dependency_buckets" (.ok kept.buckets)
    (orNull (listOf .notSequence text)) = .ok c.buckets
  outputs : field fields "compiled_outputs" (.ok kept.outputs) (listOf .notSequence path) =
    .ok c.outputs
  ignore : ∃ entries, field fields "ignore" (.ok kept.ignore) identities = .ok entries ∧
    Ascending.strings entries = c.ignore
  bucket : field fields "suggestion_bucket" (.ok kept.bucket) bucketName = .ok c.bucket

/-- The check, with the ignored identities sorted before the fields are put together. -/
theorem check_eq (resolution : Checked Path) (kept : Preferences)
    (fields : List (String × Data)) :
    check resolution kept fields =
      alsoReporting (unknownFields fieldNames fields)
        ((both (field fields "resolution" resolution path)
          (both (field fields "project" (.ok kept.project) (orNull text))
            (both (field fields "build_file" (.ok kept.buildFile) (orNull text))
              (both (field fields "dependency_buckets" (.ok kept.buckets)
                  (orNull (listOf .notSequence text)))
                (both (field fields "compiled_outputs" (.ok kept.outputs)
                    (listOf .notSequence path))
                  (both ((field fields "ignore" (.ok kept.ignore) identities).map
                      Ascending.strings)
                    (field fields "suggestion_bucket" (.ok kept.bucket) bucketName))))))).map
          fun (place, project, buildFile, buckets, outputs, ignore, bucket) =>
            { resolution := place, project, buildFile, buckets, outputs, bucket, ignore }) := by
  simp only [both_map_left, both_map_right, map_map]
  rfl

theorem check_eq_ok_iff :
    check resolution kept fields = .ok c ↔ Checks resolution kept fields c := by
  rw [check_eq, alsoReporting_eq_ok_iff, map_eq_ok_iff]
  simp only [both_eq_ok_iff, map_eq_ok_iff]
  refine ⟨?_, ?_⟩
  · rintro ⟨⟨r, ⟨hplace, hproject, hbuild, hbuckets, houtputs, hignore, hbucket⟩, rfl⟩, hknown⟩
    exact ⟨hknown, hplace, hproject, hbuild, hbuckets, houtputs, hignore, hbucket⟩
  · intro h
    exact ⟨⟨(c.resolution, c.project, c.buildFile, c.buckets, c.outputs, c.ignore, c.bucket),
      ⟨h.resolution, h.project, h.buildFile, h.buckets, h.outputs, h.ignore, h.bucket⟩, rfl⟩,
      h.known⟩

theorem valid_of_checks (h : Checks resolution kept fields c)
    (hignore : ∀ entry ∈ kept.ignore, Ignorable entry) (hbucket : NotBlank kept.bucket) :
    c.Valid := by
  obtain ⟨entries, hentries, hsorted⟩ := h.ignore
  have hall : ∀ entry ∈ entries, Ignorable entry := by
    rw [field_eq_ok_iff] at hentries
    split at hentries
    · exact hentries ▸ hignore
    · exact ignoreRule_eq_none_iff.mp (ensuring_eq_ok_iff.mp hentries).2
  refine ⟨?_, ?_, ?_⟩
  · intro entry hentry
    rw [← hsorted, Ascending.mem_strings] at hentry
    exact hall entry hentry
  · have hname := h.bucket
    rw [field_eq_ok_iff] at hname
    split at hname
    · exact hname ▸ hbucket
    · exact bucketRule_eq_none_iff.mp (ensuring_eq_ok_iff.mp hname).2
  · rw [← hsorted]
    exact Ascending.pairwise_strings entries

theorem valid_of_parse {d : Data} {base : Path} (h : parse d base = .ok c) : c.Valid := by
  unfold parse at h
  split at h
  · split at h
    · cases h
    · rename_i read hread
      obtain rfl := Except.ok.inj h
      have hvalid : read.Valid := by
        refine valid_of_checks (check_eq_ok_iff.mp hread) ?_ ?_
        · exact fun _ hentry => absurd hentry List.not_mem_nil
        · exact ⟨'i', by decide⟩
      -- seen from a directory, only the paths are others
      exact ⟨hvalid.ignorable, hvalid.bucket, hvalid.ascending⟩
  · cases h

/-! ## One step of overriding -/

/-- A step either has no effect, or is a check of its effective values. -/
theorem override_eq_ok_iff :
    c.override o = .ok c' ↔
      effective o = [] ∧ c' = c ∨
      effective o ≠ [] ∧ Checks (.ok c.resolution) c.toPreferences (effective o) c' := by
  unfold override
  cases effective o with
  | nil => simp [eq_comm]
  | cons f o =>
    simp only [List.isEmpty_cons, Bool.false_eq_true, if_false, reduceCtorEq, false_and, false_or,
      ne_eq, not_false_eq_true, true_and, ← check_eq_ok_iff]
    split
    · rename_i hcheck
      simp [hcheck]
    · rename_i hcheck
      simp [hcheck]

theorem override_eq_error {f : Failure} (h : c.override o = .error f) :
    ∃ issues, f = .config (.invalidOption issues) := by
  unfold override at h
  split at h
  · cases h
  · split at h
    · exact ⟨_, (Except.error.inj h).symm⟩
    · cases h

theorem valid_of_override (hc : c.Valid) (h : c.override o = .ok c') : c'.Valid := by
  rcases override_eq_ok_iff.mp h with ⟨_, rfl⟩ | ⟨_, hchecks⟩
  · exact hc
  · exact valid_of_checks hchecks hc.ignorable hc.bucket

/-- A field becomes what is read from the last value for it that has an effect; without one it
stays as it is. -/
def Decided {α : Type} (o : Overrides) (name : String) (read : Data → Checked α) (old new : α) :
    Prop :=
  match Data.lastField? name (effective o) with
  | none => new = old
  | some d => read d = .ok new

/-- What a step of overriding makes of the fields. -/
structure Follows (o : Overrides) (c c' : Config) : Prop where
  resolution : Decided o "resolution" path c.resolution c'.resolution
  project : Decided o "project" (orNull text) c.project c'.project
  buildFile : Decided o "build_file" (orNull text) c.buildFile c'.buildFile
  buckets : Decided o "dependency_buckets" (orNull (listOf .notSequence text)) c.buckets c'.buckets
  outputs : Decided o "compiled_outputs" (listOf .notSequence path) c.outputs c'.outputs
  ignore : Decided o "ignore" (fun d => (identities d).map Ascending.strings) c.ignore c'.ignore
  bucket : Decided o "suggestion_bucket" bucketName c.bucket c'.bucket

theorem decided_of_none {α : Type} {name : String} {read : Data → Checked α} {old new : α}
    (h : Data.lastField? name (effective o) = none) : Decided o name read old new ↔ new = old := by
  rw [Decided, h]

theorem decided_of_void {α : Type} {name : String} {read : Data → Checked α} {old new : α}
    (h : effective o = []) : Decided o name read old new ↔ new = old :=
  decided_of_none (h ▸ rfl)

theorem field_effective_eq_ok_iff {α : Type} {name : String} {read : Data → Checked α}
    {old new : α} :
    field (effective o) name (.ok old) read = .ok new ↔ Decided o name read old new :=
  field_eq_ok_iff

/-- The kept identities are sorted once more where no others come, which changes nothing. -/
theorem decided_ignore_iff (hc : c.Valid) {new : List String} :
    (∃ entries, field (effective o) "ignore" (.ok c.ignore) identities = .ok entries ∧
      Ascending.strings entries = new) ↔
      Decided o "ignore" (fun d => (identities d).map Ascending.strings) c.ignore new := by
  simp only [field_eq_ok_iff, Decided]
  cases Data.lastField? "ignore" (effective o) with
  | none => simp [Ascending.strings_of_pairwise hc.ascending, eq_comm]
  | some d => exact map_eq_ok_iff.symm

/-- A step succeeds with what decides the fields, if it names no others. -/
theorem override_iff_follows (hc : c.Valid) :
    c.override o = .ok c' ↔ unknownFields fieldNames (effective o) = [] ∧ Follows o c c' := by
  rw [override_eq_ok_iff]
  by_cases hnone : effective o = []
  · have hfollows : Follows o c c' ↔ c' = c := by
      refine ⟨?_, ?_⟩
      · intro h
        obtain ⟨⟨project, buildFile, buckets, outputs, ignore, bucket⟩, resolution⟩ := c'
        obtain rfl := (decided_of_void hnone).mp h.resolution
        obtain rfl := (decided_of_void hnone).mp h.project
        obtain rfl := (decided_of_void hnone).mp h.buildFile
        obtain rfl := (decided_of_void hnone).mp h.buckets
        obtain rfl := (decided_of_void hnone).mp h.outputs
        obtain rfl := (decided_of_void hnone).mp h.ignore
        obtain rfl := (decided_of_void hnone).mp h.bucket
        rfl
      · rintro rfl
        have hkept : ∀ {α : Type} (name : String) (read : Data → Checked α) (old : α),
            Decided o name read old old := fun _ _ _ => (decided_of_void hnone).mpr rfl
        exact ⟨hkept _ _ _, hkept _ _ _, hkept _ _ _, hkept _ _ _, hkept _ _ _, hkept _ _ _,
          hkept _ _ _⟩
    simp [hnone, hfollows, unknownFields]
  · have hchecks : Checks (.ok c.resolution) c.toPreferences (effective o) c' ↔
        unknownFields fieldNames (effective o) = [] ∧ Follows o c c' := by
      refine ⟨?_, ?_⟩
      · intro h
        exact ⟨h.known, field_effective_eq_ok_iff.mp h.resolution,
          field_effective_eq_ok_iff.mp h.project, field_effective_eq_ok_iff.mp h.buildFile,
          field_effective_eq_ok_iff.mp h.buckets, field_effective_eq_ok_iff.mp h.outputs,
          (decided_ignore_iff hc).mp h.ignore, field_effective_eq_ok_iff.mp h.bucket⟩
      · rintro ⟨hknown, h⟩
        exact ⟨hknown, field_effective_eq_ok_iff.mpr h.resolution,
          field_effective_eq_ok_iff.mpr h.project, field_effective_eq_ok_iff.mpr h.buildFile,
          field_effective_eq_ok_iff.mpr h.buckets, field_effective_eq_ok_iff.mpr h.outputs,
          (decided_ignore_iff hc).mpr h.ignore, field_effective_eq_ok_iff.mpr h.bucket⟩
    simp [hnone, hchecks]

/-! ## Two steps of overriding -/

theorem effective_effective (o : Overrides) : effective (effective o) = effective o := by
  simp [effective]

theorem effective_updated (o o' : Overrides) :
    effective (updated (effective o) (effective o')) = updated (effective o) (effective o') := by
  have heffect : ∀ {o : Overrides} {f : String × Data}, f ∈ effective o → f.2.isVoid = false := by
    intro o f hf
    simpa using (List.mem_filter.mp hf).2
  have hvoid : ∀ f ∈ updated (effective o) (effective o'), !f.2.isVoid := by
    intro f hf
    rcases List.mem_append.mp hf with hf | hf
    · obtain ⟨g, hg, rfl⟩ := List.mem_map.mp hf
      cases hd : Data.lastField? g.1 (effective o') with
      | none => simpa [hd] using heffect hg
      | some d => simpa [hd] using heffect (Data.mem_of_lastField? hd)
    · simpa using heffect (List.mem_filter.mp hf).1
  rw [effective, List.filter_eq_self]
  exact hvoid

/-- The check of updated values is that of the other values, where the fields that the values give
are kept. -/
theorem check_updated {values others : Overrides}
    (h : Checks (.ok c.resolution) c.toPreferences values c₁) :
    check (.ok c.resolution) c.toPreferences (updated values others) =
      check (.ok c₁.resolution) c₁.toPreferences others := by
  obtain ⟨entries, hentries, hsorted⟩ := h.ignore
  have hignore : (field (updated values others) "ignore" (.ok c.ignore) identities).map
      Ascending.strings =
      (field others "ignore" (.ok c₁.ignore) identities).map Ascending.strings := by
    rw [field_updated hentries, field, field]
    cases Data.lastField? "ignore" others with
    | none =>
      -- the kept identities are sorted once more, which changes nothing
      rw [← hsorted]
      exact congrArg Except.ok
        (Ascending.strings_of_pairwise (Ascending.pairwise_strings entries)).symm
    | some d => rfl
  rw [check_eq, check_eq, unknownFields_updated h.known, field_updated h.resolution,
    field_updated h.project, field_updated h.buildFile, field_updated h.buckets,
    field_updated h.outputs, hignore, field_updated h.bucket]

theorem override_override (h : c.override o = .ok c₁) (o' : Overrides) :
    c₁.override o' = c.override (updated (effective o) (effective o')) := by
  rcases override_eq_ok_iff.mp h with ⟨hnone, rfl⟩ | ⟨hsome, hchecks⟩
  · rw [hnone, updated_nil_left]
    simp only [override, effective_effective]
  · by_cases hnone : effective o' = []
    · rw [hnone, updated_nil_right, override, hnone]
      simpa [override, effective_effective] using h.symm
    · have hne : updated (effective o) (effective o') ≠ [] := by
        simp [updated, hsome]
      simp only [override, effective_updated, List.isEmpty_eq_false_iff.mpr hne,
        List.isEmpty_eq_false_iff.mpr hnone, Bool.false_eq_true, if_false, check_updated hchecks]

/-! ## Any number of steps -/

/-- The configuration after steps of overriding, one after the other. A step that fails leaves the
configuration as it was. -/
def afterAll (c : Config) : List Overrides → Config
  | [] => c
  | o :: steps =>
    match c.override o with
    | .ok c' => afterAll c' steps
    | .error _ => afterAll c steps

theorem valid_afterAll (hc : c.Valid) (steps : List Overrides) : (c.afterAll steps).Valid := by
  induction steps generalizing c with
  | nil => exact hc
  | cons o steps ih =>
    rw [afterAll]
    split
    · rename_i c' hstep
      exact ih (valid_of_override hc hstep)
    · exact ih hc

theorem overriding_valid_and_composes {d : Data} {base : Path} (hread : parse d base = .ok c)
    (steps : List Overrides) :
    let reached := c.afterAll steps
    reached.Valid ∧
    (∀ o f, reached.override o = .error f → ∃ issues, f = .config (.invalidOption issues)) ∧
    ∀ o next, reached.override o = .ok next →
      next.Valid ∧ Follows o reached next ∧
      ∀ o', next.override o' = reached.override (updated (effective o) (effective o')) := by
  intro reached
  have hvalid : reached.Valid := valid_afterAll (valid_of_parse hread) steps
  refine ⟨hvalid, fun o f => override_eq_error, ?_⟩
  intro o next hstep
  exact ⟨valid_of_override hvalid hstep, ((override_iff_follows hvalid).mp hstep).2,
    override_override hstep⟩

/-- Read from a directory, the report keeps its place there while the bucket is overridden, once in
vain. A further step then goes on from the overridden bucket. -/
theorem overriding_bucket_below_directory :
    let base : Path := ⟨.root, ["project"]⟩
    let read : Config := { resolution := ⟨.root, ["project", "report.json"]⟩ }
    let reached := read.afterAll
      [[("suggestion_bucket", .text " ")], [("suggestion_bucket", .text "api")]]
    let next : Config := { reached with ignore := ["group:name"] }
    parse (.table [("resolution", .text "report.json")]) base = .ok read ∧
      reached = { read with bucket := "api" } ∧ reached.Valid ∧
      reached.override [("ignore", .list [.text "group:name"]), ("project", .null)] = .ok next ∧
      next.override [("project", .text "app")] =
        reached.override [("ignore", .list [.text "group:name"]), ("project", .text "app")] := by
  intro base read reached next
  have hread : parse (.table [("resolution", .text "report.json")]) base = .ok read := by
    decide +kernel
  have hstep : reached.override
      [("ignore", .list [.text "group:name"]), ("project", .null)] = .ok next := by
    decide +kernel
  obtain ⟨hvalid, _, hnext⟩ := overriding_valid_and_composes hread
    [[("suggestion_bucket", .text " ")], [("suggestion_bucket", .text "api")]]
  exact ⟨hread, by decide +kernel, hvalid, hstep,
    (hnext _ next hstep).2.2 [("project", .text "app")]⟩

end Config

end DependencyAudit
