import DependencyAudit.ClassName
import DependencyAudit.Proofs.Pieces
import Mathlib.Data.List.Forall2

/-!
How archive entries name classes. A class with a qualified name is found again under the entry
that its segments make up (`ofEntry?_entry`): the entry ends like a class file, lies outside the
archive's own directory, and its last segment is none of the two that are passed over. The
packaging does not show: an entry outside the archive's own directory stands for the same class
below the directory of a versioned variant, and with any of its slashes written as backslashes.

Main statement: `entry_naming_blind_to_packaging`, both halves together.
-/

namespace DependencyAudit.ClassName

open Text

/-! ## Versioned variants -/

theorem dropVersion_of_foreign {s : List Char} (h : ¬ ownDirectory <+: s) : dropVersion s = s := by
  have hversions : ownDirectory <+: versionsDirectory := by decide
  have hnone : after? versionsDirectory s = none :=
    after?_eq_none_iff.mpr fun hstart => h (hversions.trans hstart)
  rw [dropVersion, hnone]

/-- The digits end at the slash, so what stands behind it is taken as it is, also if it starts
with digits or with another directory of that kind. -/
theorem dropVersion_versioned {v : List Char} (hne : v ≠ []) (hv : ∀ c ∈ v, isDecimalDigit c)
    (e : List Char) : dropVersion (versionsDirectory ++ (v ++ '/' :: e)) = e := by
  have hrest : after? versionsDirectory (versionsDirectory ++ (v ++ '/' :: e)) =
      some (v ++ '/' :: e) := after?_eq_some_iff.mpr rfl
  have hslash : ¬ isDecimalDigit '/' := by decide
  have htake : (v ++ '/' :: e).takeWhile isDecimalDigit = v := by
    rw [List.takeWhile_append_of_pos hv, List.takeWhile_cons_of_neg hslash, List.append_nil]
  have hdrop : (v ++ '/' :: e).dropWhile isDecimalDigit = '/' :: e := by
    rw [List.dropWhile_append_of_pos hv, List.dropWhile_cons_of_neg hslash]
  obtain ⟨d, digits, rfl⟩ := List.exists_cons_of_ne_nil hne
  rw [dropVersion, hrest]
  simp only [htake, hdrop]

/-- What is left without the directory of a variant stands at the end of the entry. -/
theorem dropVersion_suffix (s : List Char) : dropVersion s <:+ s := by
  rw [dropVersion]
  split
  · exact List.suffix_refl s
  · rename_i rest hrest
    obtain rfl := after?_eq_some_iff.mp hrest
    split
    · rename_i inner _ hinner
      have htail : '/' :: inner <:+ rest := hinner ▸ List.dropWhile_suffix isDecimalDigit
      exact ((List.suffix_cons '/' inner).trans htail).trans (List.suffix_append _ _)
    · exact List.suffix_refl _

/-! ## Entries -/

def withSlashes (e : String) : List Char := replaceChar '\\' '/' e.toList

/-- An entry that is the same without its packaging stands for the same class. -/
theorem ofEntry?_congr {e e' : String}
    (h : dropVersion (withSlashes e) = dropVersion (withSlashes e')) :
    ofEntry? e = ofEntry? e' := by
  have hsame : ofEntryText? e.toList = ofEntryText? e'.toList := by
    simp only [withSlashes] at h
    simp only [ofEntryText?, h]
  unfold ofEntry?
  rw [hsame]

/-- Only what ends like a class file stands for a class. -/
theorem ending_of_ofEntry? {e name : String} (h : ofEntry? e = some name) :
    classEnding <:+ withSlashes e := by
  obtain ⟨found, hfound, _⟩ := Option.map_eq_some_iff.mp h
  simp only [ofEntryText?] at hfound
  split at hfound
  · cases hfound
  · split at hfound
    · cases hfound
    · rename_i stem hstem
      have hinner := before?_eq_some_iff.mp hstem
      have hending : classEnding <:+ dropVersion (withSlashes e) := by
        rw [withSlashes, hinner]
        exact List.suffix_append stem classEnding
      exact hending.trans (dropVersion_suffix _)

/-- An entry for a directory stands for no class. -/
theorem ofEntry?_directory (e : String) : ofEntry? (e ++ "/") = none := by
  rw [Option.eq_none_iff_forall_ne_some]
  intro name h
  have hending := ending_of_ofEntry? h
  have hslash : withSlashes (e ++ "/") = withSlashes e ++ ['/'] := by
    simp [withSlashes, replaceChar]
  rw [hslash] at hending
  have hlast := hending.getLast (by decide)
  rw [List.getLast_concat] at hlast
  exact absurd hlast (by decide)

/-! ## Packaging -/

/-- The second text is the first with some of its slashes, or none, written as backslashes. -/
def Backslashed (e e' : String) : Prop :=
  List.Forall₂ (fun c d => d = c ∨ c = '/' ∧ d = '\\') e.toList e'.toList

instance (e e' : String) : Decidable (Backslashed e e') := by
  unfold Backslashed
  infer_instance

theorem Backslashed.withSlashes_eq {e e' : String} (h : Backslashed e e') :
    withSlashes e' = withSlashes e := by
  unfold Backslashed at h
  unfold withSlashes replaceChar
  generalize e.toList = s, e'.toList = t at h
  induction h with
  | nil => rfl
  | cons hcd _ ih =>
    rw [List.map_cons, List.map_cons, ih]
    rcases hcd with rfl | ⟨rfl, rfl⟩ <;> rfl

theorem withSlashes_versioned {v : String} (hv : ∀ c ∈ v.toList, isDecimalDigit c) (e : String) :
    withSlashes ("META-INF/versions/" ++ v ++ "/" ++ e) =
      versionsDirectory ++ (v.toList ++ '/' :: withSlashes e) := by
  have hdigits : '\\' ∉ v.toList := fun hc => absurd (hv '\\' hc) (by decide)
  have hdirectory : replaceChar '\\' '/' "META-INF/versions/".toList = versionsDirectory := by
    decide
  have hslash : replaceChar '\\' '/' "/".toList = ['/'] := by decide
  simp only [withSlashes, String.toList_append, replaceChar_append, hdirectory, hslash,
    replaceChar_of_not_mem hdigits, List.append_assoc, List.cons_append, List.nil_append]

theorem ofEntry?_versioned {e v : String} (he : ¬ ownDirectory <+: withSlashes e) (hne : v ≠ "")
    (hv : ∀ c ∈ v.toList, isDecimalDigit c) :
    ofEntry? ("META-INF/versions/" ++ v ++ "/" ++ e) = ofEntry? e := by
  have hnil : v.toList ≠ [] := fun hnil => hne (String.toList_eq_nil_iff.mp hnil)
  apply ofEntry?_congr
  rw [withSlashes_versioned hv, dropVersion_versioned hnil hv, dropVersion_of_foreign he]

/-! ## Qualified names -/

/-- A part of a class name between two dots: not empty, and without the characters that separate
parts in names and entries. -/
structure Segment (s : List Char) : Prop where
  ne_nil : s ≠ []
  plain : ∀ c ∈ s, c ≠ '.' ∧ c ≠ '/' ∧ c ≠ '\\'

instance (s : List Char) : Decidable (Segment s) :=
  decidable_of_iff (s ≠ [] ∧ s.all fun c => c ≠ '.' ∧ c ≠ '/' ∧ c ≠ '\\')
    ⟨fun ⟨hne, hall⟩ => ⟨hne, by simpa using hall⟩, fun h => ⟨h.ne_nil, by simpa using h.plain⟩⟩

/-- The segments of a class that can be referred to by name: it is none of the two descriptions,
and does not lie where an archive describes itself. -/
structure QualifiedName where
  segments : List (List Char)
  ne_nil : segments ≠ []
  segment : ∀ s ∈ segments, Segment s
  referable : ∀ last ∈ segments.getLast?, last ∉ descriptions
  foreign : 1 < segments.length → segments.head? ≠ some "META-INF".toList

namespace QualifiedName

variable (n : QualifiedName)

/-- The segments, put together with a separator. -/
def joined (sep : Char) : List Char := [sep].intercalate n.segments

def name : String := String.ofList (n.joined '.')

/-- The entry under which an archive holds the class. -/
def entry : String := String.ofList (n.joined '/' ++ classEnding)

variable {n}

theorem not_mem_joined {c sep : Char} (hsep : c ≠ sep) (h : ∀ s ∈ n.segments, c ∉ s) :
    c ∉ n.joined sep := by
  intro hc
  rcases mem_intercalate hc with hc | ⟨s, hs, hc⟩
  · exact hsep hc
  · exact h s hs hc

theorem slash_not_mem {s : List Char} (hs : s ∈ n.segments) : '/' ∉ s :=
  fun hc => ((n.segment s hs).plain '/' hc).2.1 rfl

theorem dot_not_mem {s : List Char} (hs : s ∈ n.segments) : '.' ∉ s :=
  fun hc => ((n.segment s hs).plain '.' hc).1 rfl

theorem backslash_not_mem {s : List Char} (hs : s ∈ n.segments) : '\\' ∉ s :=
  fun hc => ((n.segment s hs).plain '\\' hc).2.2 rfl

theorem dotted_joined : dotted (n.joined '/') = n.joined '.' :=
  replaceChar_intercalate fun _ hs => slash_not_mem hs

theorem lastSegment_joined : lastSegment (n.joined '/') ∉ descriptions := by
  have hsplit : splitAt '/' (n.joined '/') = n.segments :=
    splitAt_intercalate n.ne_nil fun _ hs => slash_not_mem hs
  have hlast := List.getLast?_eq_some_getLast n.ne_nil
  rw [lastSegment, hsplit, hlast, Option.getD_some]
  exact n.referable _ hlast

/-- Of several segments the first is another one than the archive's own directory, and a single
segment has no slash. -/
theorem entry_foreign : ¬ ownDirectory <+: n.joined '/' ++ classEnding := by
  obtain ⟨segments, ne_nil, segment, referable, foreign⟩ := n
  intro hown
  simp only [joined] at hown
  match segments, segment, foreign, hown with
  | [s], segment, _, hown =>
    rw [List.intercalate_singleton] at hown
    have hslash : '/' ∈ s ++ classEnding := hown.subset (by decide)
    rcases List.mem_append.mp hslash with hs | hs
    · exact ((segment s List.mem_cons_self).plain '/' hs).2.1 rfl
    · exact absurd hs (by decide)
  | s :: t :: rest, segment, foreign, hown =>
    obtain ⟨r, hr⟩ := hown
    have hs : '/' ∉ s := fun hc => ((segment s List.mem_cons_self).plain '/' hc).2.1 rfl
    have hfinal : ownDirectory = "META-INF".toList ++ ['/'] := by decide
    rw [hfinal, List.intercalate_cons_cons] at hr
    simp only [List.append_assoc, List.cons_append, List.nil_append] at hr
    -- both sides are cut at their first slash
    have hsplit := congrArg (splitAt '/') hr
    rw [splitAt_append, splitAt_append, splitAt_of_not_mem hs,
      splitAt_of_not_mem (by decide : '/' ∉ "META-INF".toList)] at hsplit
    obtain ⟨hfirst, _⟩ := List.cons.inj hsplit
    exact foreign (by simp) (congrArg some hfirst.symm)

theorem ofEntry?_entry : ofEntry? n.entry = some n.name := by
  have hbackslash : '\\' ∉ n.joined '/' ++ classEnding := by
    rw [List.mem_append, not_or]
    exact ⟨not_mem_joined (by decide) fun _ hs => backslash_not_mem hs, by decide⟩
  have hstem : before? classEnding (n.joined '/' ++ classEnding) = some (n.joined '/') :=
    before?_eq_some_iff.mpr rfl
  have hown : after? ownDirectory (n.joined '/' ++ classEnding) = none :=
    after?_eq_none_iff.mpr entry_foreign
  unfold ofEntry?
  rw [entry, String.toList_ofList, ofEntryText?, replaceChar_of_not_mem hbackslash,
    dropVersion_of_foreign entry_foreign]
  simp [hown, hstem, lastSegment_joined, dotted_joined, name]

end QualifiedName

theorem entry_naming_blind_to_packaging :
    (∀ n : QualifiedName, ofEntry? n.entry = some n.name) ∧
      ∀ e v e' : String, ¬ ownDirectory <+: withSlashes e → v ≠ "" →
        (∀ c ∈ v.toList, isDecimalDigit c) →
        Backslashed e e' ∨ Backslashed ("META-INF/versions/" ++ v ++ "/" ++ e) e' →
        ofEntry? e' = ofEntry? e := by
  refine ⟨fun n => QualifiedName.ofEntry?_entry, ?_⟩
  intro e v e' he hne hv hwritten
  rcases hwritten with hwritten | hwritten
  · exact ofEntry?_congr (by rw [hwritten.withSlashes_eq])
  · rw [← ofEntry?_versioned he hne hv]
    exact ofEntry?_congr (by rw [hwritten.withSlashes_eq])

/-! ## A class in a versioned variant

Behind the version stand digits and a directory that looks like that of a variant. -/

def innerClass : QualifiedName where
  segments := ["com".toList, "foo".toList, "Bar$Baz".toList]
  ne_nil := by decide
  segment := by decide
  referable := by decide
  foreign := by decide

theorem variant_named_alike :
    ofEntry? "com/foo/Bar$Baz.class" = some "com.foo.Bar$Baz" ∧
      ¬ ownDirectory <+: withSlashes "9/META-INF\\versions/8/A.class" ∧
      ofEntry? "META-INF\\versions/17\\9/META-INF\\versions/8\\A.class" =
        ofEntry? "9/META-INF\\versions/8/A.class" := by
  obtain ⟨hnames, hblind⟩ := entry_naming_blind_to_packaging
  have hforeign : ¬ ownDirectory <+: withSlashes "9/META-INF\\versions/8/A.class" := by decide
  exact ⟨hnames innerClass, hforeign,
    hblind _ "17" _ hforeign (by decide) (List.all_eq_true.mp (by decide)) (Or.inr (by decide))⟩

end DependencyAudit.ClassName
