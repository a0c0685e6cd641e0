import DependencyAudit.Coordinate
import DependencyAudit.Proofs.Pieces

/-!
Coordinates and their written forms. A text is read by its pieces: what stands between the blanks
at either end, cut at the colons. A coordinate is written with the fields that it has, so the
fields of a coordinate that was read are the pieces of the text it was read from
(`fields_of_ofParts`), whichever of the four shapes it has.

Main statement: `written_round_trip`. Reading fails exactly at an empty piece or at more than
three; otherwise the coordinate is written like the text without the blanks at its ends, and is
read back from there. So coordinates are as different as what they were read from.
-/

namespace DependencyAudit.Coordinate

variable {c : Coordinate} {written : String}

/-! ## Pieces and fields -/

/-- What stands between the blanks at either end of a text, cut at the colons. -/
def pieces (written : String) : List (List Char) := Text.splitAt ':' (Text.trim written.toList)

/-- The group, the name and the version, without those that are empty. -/
def fields (c : Coordinate) : List (List Char) :=
  [c.group.toList, c.name.toList, c.version.toList].filter fun field => !field.isEmpty

theorem pieces_ne_nil (written : String) : pieces written ≠ [] := by
  obtain ⟨piece, others, h⟩ := Text.exists_splitWhen (· == ':') (Text.trim written.toList)
  rw [pieces, Text.splitAt, h]
  exact List.cons_ne_nil piece others

theorem parse?_eq_some_iff :
    parse? written = some c ↔ [] ∉ pieces written ∧ ofParts? (pieces written) = some c := by
  have hempty : (pieces written).any List.isEmpty ↔ [] ∈ pieces written := by
    simp [List.any_eq_true]
  show (if (pieces written).any List.isEmpty then none else ofParts? (pieces written)) = some c ↔ _
  by_cases h : [] ∈ pieces written
  · simp [hempty.mpr h, h]
  · simp [Bool.eq_false_iff.mpr (mt hempty.mp h), h]

/-- Some number of pieces from one to three can be read in one way. -/
theorem ofParts?_eq_none_iff {parts : List (List Char)} (hne : parts ≠ []) :
    ofParts? parts = none ↔ 3 < parts.length := by
  match parts, hne with
  | [name], _ => simp [ofParts?]
  | [first, second], _ =>
    simp only [ofParts?]
    split <;> simp
  | [group, name, version], _ => simp [ofParts?]
  | _ :: _ :: _ :: _ :: _, _ => simp [ofParts?]

theorem parse?_eq_none_iff :
    parse? written = none ↔ [] ∈ pieces written ∨ 3 < (pieces written).length := by
  rw [← ofParts?_eq_none_iff (pieces_ne_nil written), Option.eq_none_iff_forall_ne_some,
    Option.eq_none_iff_forall_ne_some]
  simp only [ne_eq, parse?_eq_some_iff, not_and]
  by_cases h : [] ∈ pieces written
  · simp [h]
  · simp [h]

/-! ## Writing what was read -/

/-- The fields of a coordinate are the parts that it was made of, and its name is one of them. -/
theorem fields_of_ofParts {parts : List (List Char)} (h : ofParts? parts = some c)
    (hne : [] ∉ parts) : c.fields = parts ∧ c.name ≠ "" := by
  have hpart : ∀ part ∈ parts, part ≠ [] := fun part hmem hnil => hne (hnil ▸ hmem)
  have hname : ∀ part ∈ parts, String.ofList part ≠ "" := by
    intro part hmem hnil
    exact hpart part hmem (by simpa using congrArg String.toList hnil)
  unfold ofParts? at h
  -- one case for each shape; in every one, what is left out is empty
  split at h
  · rename_i name
    obtain rfl := Option.some.inj h
    exact ⟨by simp [fields, hpart name], hname _ (by simp)⟩
  · rename_i first second
    split at h
    · obtain rfl := Option.some.inj h
      exact ⟨by simp [fields, hpart first, hpart second], hname _ (by simp)⟩
    · obtain rfl := Option.some.inj h
      exact ⟨by simp [fields, hpart first, hpart second], hname _ (by simp)⟩
  · rename_i group name version
    obtain rfl := Option.some.inj h
    exact ⟨by simp [fields, hpart group, hpart name, hpart version], hname _ (by simp)⟩
  · cases h

/-- A coordinate with a name is written as its fields with colons between them. -/
theorem toList_text (h : c.name ≠ "") : c.text.toList = [':'].intercalate c.fields := by
  obtain ⟨group, name, version⟩ := c
  by_cases hgroup : group = ""
  · by_cases hversion : version = ""
    · simp [text, identity, fields, hgroup, hversion, h]
    · simp [text, identity, fields, hgroup, hversion, h, List.intercalate_cons_cons]
  · by_cases hversion : version = ""
    · simp [text, identity, fields, hgroup, hversion, h, List.intercalate_cons_cons]
    · simp [text, identity, fields, hgroup, hversion, h, List.intercalate_cons_cons]

theorem toList_text_of_parse (h : parse? written = some c) :
    c.text.toList = Text.trim written.toList := by
  obtain ⟨hne, hparts⟩ := parse?_eq_some_iff.mp h
  obtain ⟨hfields, hname⟩ := fields_of_ofParts hparts hne
  calc c.text.toList = [':'].intercalate c.fields := toList_text hname
    _ = [':'].intercalate (pieces written) := by rw [hfields]
    _ = Text.trim written.toList := Text.intercalate_splitAt ':' _

/-- A coordinate that was read is read back from what is written for it. -/
theorem parse?_text (h : parse? written = some c) : parse? c.text = some c := by
  have hpieces : pieces c.text = pieces written := by
    rw [pieces, toList_text_of_parse h, Text.trim_trim, pieces]
  rw [parse?_eq_some_iff, hpieces, ← parse?_eq_some_iff]
  exact h

/-- Coordinates that were read are told apart by what is written for them. -/
theorem eq_of_text_eq {written' : String} {c' : Coordinate} (h : parse? written = some c)
    (h' : parse? written' = some c') (htext : c.text = c'.text) : c = c' := by
  have hback := parse?_text h
  rw [htext, parse?_text h'] at hback
  exact (Option.some.inj hback).symm

/-- For every text: it cannot be read exactly if a piece of it is empty or it has more than three;
what is read from it is written as the text without the blanks at its ends, is read back from
that, and equals what is read from another text exactly if the two differ in such blanks only. -/
theorem written_round_trip (written : String) :
    (parse? written = none ↔ [] ∈ pieces written ∨ 3 < (pieces written).length) ∧
    ∀ c, parse? written = some c →
      c.text.toList = Text.trim written.toList ∧ parse? c.text = some c ∧
      ∀ written' c', parse? written' = some c' →
        (c = c' ↔ Text.trim written.toList = Text.trim written'.toList) := by
  refine ⟨parse?_eq_none_iff, ?_⟩
  intro c h
  refine ⟨toList_text_of_parse h, parse?_text h, ?_⟩
  intro written' c' h'
  rw [← toList_text_of_parse h, ← toList_text_of_parse h', String.toList_inj]
  exact ⟨congrArg text, eq_of_text_eq h h'⟩

theorem superscript_version_round_trip :
    parse? "\t lib foo :² " = some ⟨"", "lib foo ", "²"⟩ ∧
    parse? "lib foo :²" = some ⟨"", "lib foo ", "²"⟩ ∧
    parse? (text ⟨"", "lib foo ", "²"⟩) = some ⟨"", "lib foo ", "²"⟩ ∧
    Text.trim "\t lib foo :² ".toList = Text.trim "lib foo :²".toList := by
  have h : parse? "\t lib foo :² " = some ⟨"", "lib foo ", "²"⟩ := by decide
  have h' : parse? "lib foo :²" = some ⟨"", "lib foo ", "²"⟩ := by decide
  obtain ⟨_, hback, hequal⟩ := (written_round_trip "\t lib foo :² ").2 _ h
  exact ⟨h, h', hback, (hequal _ _ h').mp rfl⟩

end DependencyAudit.Coordinate
