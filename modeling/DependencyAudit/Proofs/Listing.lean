import DependencyAudit.Proofs.Ascending
import DependencyAudit.Proofs.EntryNames
import DependencyAudit.Reference.Format

/-!
Plain listings and archives name classes alike. A listing may write a class with dots, with
slashes, or as its class file, with blanks around it and a comment behind it; lines without a
class may stand anywhere, and every line may end in its own way. Each line with a class is read
as its dotted name (`NameLine.ofLine?_eq`), whichever spelling it has, and the other lines are
passed over.

Main statement: `listing_names_like_entries`. What is read is the set of the names that the
archive entries of these classes stand for.
-/

namespace DependencyAudit.Reference.Listing

open Text ClassName

/-! ## Trimming -/

theorem trimLeft_append {gap : List Char} (hgap : ∀ c ∈ gap, isBlank c) (s : List Char) :
    trimLeft (gap ++ s) = trimLeft s :=
  List.dropWhile_append_of_pos hgap

theorem trimLeft_token_append {word : List Char} (hword : Token word) (s : List Char) :
    trimLeft (word ++ s) = word ++ s := by
  obtain ⟨c, word, rfl⟩ := List.exists_cons_of_ne_nil hword.ne_nil
  exact List.dropWhile_cons_of_neg (hword.solid c List.mem_cons_self)

theorem token_reverse {word : List Char} (hword : Token word) : Token word.reverse where
  ne_nil := by simpa using hword.ne_nil
  solid c hc := hword.solid c (List.mem_reverse.mp hc)

theorem trim_token {left word right : List Char} (hleft : ∀ c ∈ left, isBlank c)
    (hword : Token word) (hright : ∀ c ∈ right, isBlank c) :
    trim (left ++ (word ++ right)) = word := by
  have hback : ∀ c ∈ right.reverse, isBlank c := fun c hc => hright c (List.mem_reverse.mp hc)
  have hend : trimLeft word.reverse = word.reverse := by
    simpa using trimLeft_token_append (token_reverse hword) []
  rw [trim, trimLeft_append hleft, trimLeft_token_append hword, List.reverse_append,
    trimLeft_append hback, hend, List.reverse_reverse]

theorem trim_blank {gap : List Char} (hgap : ∀ c ∈ gap, isBlank c) : trim gap = [] := by
  have hnil : trimLeft gap = [] := by simpa [trimLeft] using trimLeft_append hgap []
  rw [trim, hnil]
  rfl

/-! ## Names in a listing -/

/-- Neither blanks nor number signs stand in the text. -/
def Bare (s : List Char) : Prop := ∀ c ∈ s, ¬ isBlank c ∧ c ≠ '#'

instance (s : List Char) : Decidable (Bare s) :=
  decidable_of_iff (s.all fun c => ¬ isBlank c ∧ c ≠ '#') (by simp [Bare])

/-- A name that can be written in a listing: no blank and no number sign stands in it, and its
last segment does not look like the ending of class files. -/
structure ListedName extends QualifiedName where
  bare : ∀ s ∈ segments, Bare s
  unlikeEnding : segments.getLast? ≠ some "class".toList

/-- The ways to write a name. -/
inductive Spelling where
  | dotted
  | slashed
  | classFile

namespace ListedName

variable {n : ListedName}

/-- The name in one of the spellings. -/
def written (n : ListedName) : Spelling → List Char
  | .dotted => n.joined '.'
  | .slashed => n.joined '/'
  | .classFile => n.joined '/' ++ classEnding

theorem joined_ne_nil (sep : Char) : n.joined sep ≠ [] := by
  obtain ⟨s, rest, hs⟩ := List.exists_cons_of_ne_nil n.ne_nil
  have hne : s ≠ [] := (n.segment s (hs ▸ List.mem_cons_self)).ne_nil
  rw [QualifiedName.joined, hs]
  cases rest with
  | nil => rwa [List.intercalate_singleton]
  | cons t rest => simp [List.intercalate_cons_cons]

/-- Neither blanks nor number signs stand in a name, if the separator is none. -/
theorem of_mem_joined {sep c : Char} (hsep : ¬ isBlank sep ∧ sep ≠ '#') (hc : c ∈ n.joined sep) :
    ¬ isBlank c ∧ c ≠ '#' := by
  rcases mem_intercalate hc with rfl | ⟨s, hs, hc⟩
  · exact hsep
  · exact n.bare s hs c hc

theorem of_mem_written {spelling : Spelling} {c : Char} (hc : c ∈ n.written spelling) :
    ¬ isBlank c ∧ c ≠ '#' := by
  cases spelling with
  | dotted => exact of_mem_joined (by decide) hc
  | slashed => exact of_mem_joined (by decide) hc
  | classFile =>
    rcases List.mem_append.mp hc with hc | hc
    · exact of_mem_joined (by decide) hc
    · exact (by decide : Bare classEnding) c hc

theorem token_written (spelling : Spelling) : Token (n.written spelling) where
  ne_nil := by
    cases spelling with
    | dotted => exact joined_ne_nil '.'
    | slashed => exact joined_ne_nil '/'
    | classFile => exact List.append_ne_nil_of_left_ne_nil (joined_ne_nil '/') _
  solid _ hc := (of_mem_written hc).1

/-- The dotted name is no class file: its last segment would be the ending. -/
theorem not_ending_dotted : ¬ classEnding <:+ n.joined '.' := by
  intro hending
  obtain ⟨stem, hstem⟩ := hending
  have hsplit : splitAt '.' (n.joined '.') = n.segments :=
    splitAt_intercalate n.ne_nil fun _ hs => QualifiedName.dot_not_mem hs
  have hclass : classEnding = '.' :: "class".toList := by decide
  have hplain : '.' ∉ "class".toList := by decide
  rw [← hstem, hclass, splitAt_append, splitAt_of_not_mem hplain] at hsplit
  exact n.unlikeEnding (hsplit ▸ List.getLast?_concat)

theorem not_ending_slashed : ¬ classEnding <:+ n.joined '/' := by
  intro hending
  have hdot : '.' ∈ n.joined '/' := hending.subset (by decide)
  exact QualifiedName.not_mem_joined (by decide) (fun _ hs => QualifiedName.dot_not_mem hs) hdot

/-- In each spelling the name is read with dots. -/
theorem ofListed_written (spelling : Spelling) : ofListed (n.written spelling) = n.joined '.' := by
  have htrim : trim (n.written spelling) = n.written spelling := by
    simpa using trim_token (List.forall_mem_nil _) (token_written spelling) (List.forall_mem_nil _)
  have hslash : '/' ∉ n.joined '.' :=
    QualifiedName.not_mem_joined (by decide) fun _ hs => QualifiedName.slash_not_mem hs
  rw [ofListed, htrim]
  cases spelling with
  | dotted =>
    have hnone := before?_eq_none_iff.mpr (not_ending_dotted (n := n))
    rw [written, hnone, Option.getD_none, dotted, replaceChar_of_not_mem hslash]
  | slashed =>
    have hnone := before?_eq_none_iff.mpr (not_ending_slashed (n := n))
    rw [written, hnone, Option.getD_none, QualifiedName.dotted_joined]
  | classFile =>
    have hstem : before? classEnding (n.joined '/' ++ classEnding) = some (n.joined '/') :=
      before?_eq_some_iff.mpr rfl
    rw [written, hstem, Option.getD_some, QualifiedName.dotted_joined]

end ListedName

/-! ## Lines -/

/-- Blanks within a line, if any. -/
structure Margin (s : List Char) : Prop where
  blank : ∀ c ∈ s, isBlank c
  oneLine : OneLine s

instance (s : List Char) : Decidable (Margin s) :=
  decidable_of_iff (s.all isBlank ∧ OneLine s)
    ⟨fun ⟨hall, hone⟩ => ⟨List.all_eq_true.mp hall, hone⟩,
      fun h => ⟨List.all_eq_true.mpr h.blank, h.oneLine⟩⟩

/-- Nothing, or a number sign with a text on the same line behind it. -/
inductive Remark : List Char → Prop where
  | none : Remark []
  | comment {s : List Char} : OneLine s → Remark ('#' :: s)

/-- A line with the name in one of the spellings. -/
def NameLine (n : ListedName) (line : List Char) : Prop :=
  ∃ left right remark spelling, Margin left ∧ Margin right ∧ Remark remark ∧
    line = left ++ (n.written spelling ++ (right ++ remark))

/-- A line without a name. -/
def IdleLine (line : List Char) : Prop :=
  ∃ gap remark, Margin gap ∧ Remark remark ∧ line = gap ++ remark

/-- The lines of a listing: one for each name, and idle ones anywhere. -/
inductive Lines : List ListedName → List (List Char) → Prop where
  | nil : Lines [] []
  | name {n : ListedName} {names : List ListedName} {line : List Char} {ls : List (List Char)} :
      NameLine n line → Lines names ls → Lines (n :: names) (line :: ls)
  | idle {names : List ListedName} {line : List Char} {ls : List (List Char)} :
      IdleLine line → Lines names ls → Lines names (line :: ls)

/-- The text is a listing of the names. -/
def Lists (names : List ListedName) (content : List Char) : Prop :=
  ∃ ls, Lines names ls ∧ Separated ls content

theorem Remark.oneLine {remark : List Char} (h : Remark remark) : OneLine remark := by
  cases h with
  | none => exact fun _ hc => absurd hc List.not_mem_nil
  | comment hs => exact List.forall_mem_cons.mpr ⟨by decide, hs⟩

/-- A line is read up to its remark. -/
theorem uncommented_append {s remark : List Char} (hs : '#' ∉ s) (h : Remark remark) :
    uncommented (s ++ remark) = trim s := by
  have hkept : ∀ c ∈ s, decide (c ≠ '#') = true := by
    intro c hc
    exact decide_eq_true fun e => hs (e ▸ hc)
  rw [uncommented, List.takeWhile_append_of_pos hkept]
  cases h with
  | none => simp
  | comment _ => simp

theorem Margin.number_sign_not_mem {gap : List Char} (h : Margin gap) : '#' ∉ gap :=
  fun hc => absurd (h.blank '#' hc) (by decide)

theorem NameLine.oneLine {n : ListedName} {line : List Char} (h : NameLine n line) :
    OneLine line := by
  obtain ⟨left, right, remark, spelling, hleft, hright, hremark, rfl⟩ := h
  simp only [oneLine_append]
  exact ⟨hleft.oneLine, (ListedName.token_written spelling).oneLine, hright.oneLine,
    hremark.oneLine⟩

theorem NameLine.ofLine?_eq {n : ListedName} {line : List Char} (h : NameLine n line) :
    ofLine? line = some (n.joined '.') := by
  obtain ⟨left, right, remark, spelling, hleft, hright, hremark, rfl⟩ := h
  have hword : Token (n.written spelling) := ListedName.token_written spelling
  have hsign : '#' ∉ left ++ (n.written spelling ++ right) := by
    simp only [List.mem_append, not_or]
    exact ⟨hleft.number_sign_not_mem, fun hc => (ListedName.of_mem_written hc).2 rfl,
      hright.number_sign_not_mem⟩
  have hread : uncommented (left ++ (n.written spelling ++ (right ++ remark))) =
      n.written spelling := by
    have hremoved := uncommented_append hsign hremark
    simp only [List.append_assoc] at hremoved
    rw [hremoved, trim_token hleft.blank hword hright.blank]
  rw [ofLine?, hread]
  split
  · rename_i hnil
    exact absurd hnil hword.ne_nil
  · rw [ListedName.ofListed_written]

theorem IdleLine.oneLine {line : List Char} (h : IdleLine line) : OneLine line := by
  obtain ⟨gap, remark, hgap, hremark, rfl⟩ := h
  exact oneLine_append.mpr ⟨hgap.oneLine, hremark.oneLine⟩

theorem IdleLine.ofLine?_eq {line : List Char} (h : IdleLine line) : ofLine? line = none := by
  obtain ⟨gap, remark, hgap, hremark, rfl⟩ := h
  rw [ofLine?, uncommented_append hgap.number_sign_not_mem hremark, trim_blank hgap.blank]

/-! ## Listings -/

theorem Lines.oneLine {names : List ListedName} {ls : List (List Char)} (h : Lines names ls) :
    ∀ line ∈ ls, OneLine line := by
  induction h with
  | nil => exact fun _ hline => absurd hline List.not_mem_nil
  | name hline _ ih => exact List.forall_mem_cons.mpr ⟨hline.oneLine, ih⟩
  | idle hline _ ih => exact List.forall_mem_cons.mpr ⟨hline.oneLine, ih⟩

theorem Lines.filterMap_ofLine? {names : List ListedName} {ls : List (List Char)}
    (h : Lines names ls) : ls.filterMap ofLine? = names.map fun n => n.joined '.' := by
  induction h with
  | nil => rfl
  | name hline _ ih => rw [List.filterMap_cons_some hline.ofLine?_eq, List.map_cons, ih]
  | idle hline _ ih => rw [List.filterMap_cons_none hline.ofLine?_eq, ih]

theorem Lists.classes_eq {names : List ListedName} {content : List Char}
    (h : Lists names content) : classes content = names.map fun n => n.joined '.' := by
  obtain ⟨ls, hls, hcontent⟩ := h
  rw [classes, filterMap_lines_of_separated rfl hcontent hls.oneLine, hls.filterMap_ofLine?]

theorem listing_names_like_entries {names : List ListedName} {content : List Char}
    (h : Lists names content) :
    (∀ name, name ∈ Format.listing.classes content ↔ ∃ n ∈ names, n.name = name) ∧
      Format.listing.classes content =
        Ascending.strings (names.filterMap fun n => ofEntry? n.entry) := by
  have hnames : Format.listing.classes content =
      Ascending.strings (names.map fun n => n.name) := by
    rw [Format.classes, h.classes_eq, List.map_map]
    rfl
  have hentries : (names.filterMap fun n => ofEntry? n.entry) = names.map fun n => n.name := by
    have hsome : ∀ n ∈ names, ofEntry? n.entry = some n.name :=
      fun _ _ => QualifiedName.ofEntry?_entry
    rw [List.filterMap_congr hsome, List.filterMap_eq_map']
  refine ⟨fun name => ?_, by rw [hnames, hentries]⟩
  rw [hnames, Ascending.mem_strings, List.mem_map]

/-! ## A listing with every spelling

Its lines end in four ways, the last one not at all, and one class is listed twice. -/

def listedInner : ListedName where
  toQualifiedName := innerClass
  bare := by decide
  unlikeEnding := by decide

def listedPlain : ListedName where
  segments := ["META-INF".toList]
  ne_nil := by decide
  segment := by decide
  referable := by decide
  foreign := by decide
  bare := by decide
  unlikeEnding := by decide

def sampleListing : List Char :=
  "# used".toList ++ (['\r', '\n'] ++ ("\tcom/foo/Bar$Baz.class # by App".toList ++ (['\x0c'] ++
    ("".toList ++ (['\r'] ++ ("com.foo.Bar$Baz\u00a0".toList ++ (['\u2028'] ++
      "META-INF#".toList)))))))

theorem sampleListing_lists : Lists [listedInner, listedInner, listedPlain] sampleListing := by
  have hused : IdleLine "# used".toList :=
    ⟨[], "# used".toList, by decide, .comment (by decide), by decide⟩
  have hempty : IdleLine "".toList := ⟨[], [], by decide, .none, by decide⟩
  have hfile : NameLine listedInner "\tcom/foo/Bar$Baz.class # by App".toList :=
    ⟨"\t".toList, " ".toList, "# by App".toList, .classFile, by decide, by decide,
      .comment (by decide), by decide⟩
  have hdots : NameLine listedInner "com.foo.Bar$Baz\u00a0".toList :=
    ⟨[], "\u00a0".toList, [], .dotted, by decide, by decide, .none, by decide⟩
  have hplain : NameLine listedPlain "META-INF#".toList :=
    ⟨[], [], "#".toList, .slashed, by decide, by decide, .comment (by decide), by decide⟩
  refine ⟨_, .idle hused (.name hfile (.idle hempty (.name hdots (.name hplain .nil)))), ?_⟩
  exact .cons .pair (.cons (.single (by decide)) (.cons (.single (by decide))
    (.cons (.single (by decide)) .last)))

theorem sample_listing_named_alike :
    Lists [listedInner, listedInner, listedPlain] sampleListing ∧
      "com.foo.Bar$Baz" ∈ Format.listing.classes sampleListing ∧
      Format.listing.classes sampleListing = Ascending.strings
        ([listedInner, listedInner, listedPlain].filterMap fun n => ofEntry? n.entry) := by
  obtain ⟨hnames, hentries⟩ := listing_names_like_entries sampleListing_lists
  have hname : listedInner.name = "com.foo.Bar$Baz" := by decide
  exact ⟨sampleListing_lists, (hnames _).mpr ⟨listedInner, List.mem_cons_self, hname⟩, hentries⟩

end DependencyAudit.Reference.Listing
