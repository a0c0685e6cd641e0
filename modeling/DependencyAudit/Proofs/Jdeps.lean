import DependencyAudit.Proofs.Ascending
import DependencyAudit.Proofs.Pieces
import DependencyAudit.Reference.Format
import Mathlib.Data.List.TakeWhile

/-!
Which classes the output of `jdeps` refers to, line by line. A line refers to the word behind its
arrow, if it is indented and has at most one word before the arrow (`Refers`). From that word the
reading takes the plain name it starts with (`refers_of_ofLine?`): an ASCII letter, low line or
dollar sign, and then word characters, dollar signs and dots. So a class whose name is plain is
found under its whole name, and any other is cut short or lost (`targets_taken_whole_iff`,
`hyphen_cuts_target_short`).

Main statement on the two layouts: grouped under the class that uses them, or one on each line,
the used classes are the same (`layouts_agree`).
-/

namespace DependencyAudit.Reference.Jdeps

open Text

/-- An indented line with at most one word before its arrow, and the word behind the arrow. -/
inductive Refers : List Char → List Char → Prop where
  | first {indent gap target rest : List Char} :
      Gap indent → Gap gap → Token target → EndsWord rest →
      Refers (indent ++ (arrow ++ (gap ++ (target ++ rest)))) target
  | second {indent user before gap target rest : List Char} :
      Gap indent → Token user → Gap before → Gap gap → Token target → EndsWord rest →
      Refers (indent ++ (user ++ (before ++ (arrow ++ (gap ++ (target ++ rest)))))) target

/-- A name that starts with an ASCII letter, a low line or a dollar sign and goes on with word
characters, dollar signs and dots. -/
def isPlain : List Char → Bool
  | [] => false
  | c :: rest => isNameStart c && rest.all isNamePart

/-! ## Plain names -/

theorem target?_of_plain {word : List Char} (h : isPlain word) : target? word = some word := by
  cases word with
  | nil => cases h
  | cons c rest =>
    obtain ⟨hc, hrest⟩ := Bool.and_eq_true_iff.mp h
    have hall : rest.takeWhile isNamePart = rest :=
      List.takeWhile_eq_self_iff.mpr (List.all_eq_true.mp hrest)
    rw [target?, if_pos hc, hall]

/-- The name that a word starts with is plain, and a beginning of the word. -/
theorem plain_of_target? {word name : List Char} (h : target? word = some name) :
    isPlain name ∧ name <+: word := by
  cases word with
  | nil => cases h
  | cons c rest =>
    rw [target?] at h
    split at h
    · rename_i hc
      obtain rfl := Option.some.inj h
      refine ⟨?_, (List.prefix_cons_inj c).mpr (List.takeWhile_prefix isNamePart)⟩
      rw [isPlain, hc, Bool.true_and]
      exact List.all_takeWhile
    · cases h

theorem not_isBlank_of_isNamePart {c : Char} (h : isNamePart c) : ¬ isBlank c := by
  simp only [isNamePart, Bool.or_eq_true, beq_iff_eq] at h
  rcases h with (h | rfl) | rfl
  · exact not_isBlank_of_isWord h
  · decide
  · decide

theorem toNat_of_isNameStart {c : Char} (h : isNameStart c) :
    0x21 ≤ c.toNat ∧ c.toNat ≤ 0x7E := by
  simp only [isNameStart, Bool.or_eq_true, beq_iff_eq] at h
  rcases h with (hletter | rfl) | rfl
  · rcases (Bool.or_eq_true _ _).mp hletter with hupper | hlower
    · have hbounds : 0x41 ≤ c.toNat ∧ c.toNat ≤ 0x5A := of_decide_eq_true hupper
      omega
    · obtain ⟨hlow, hhigh⟩ := Bool.and_eq_true_iff.mp hlower
      have ha : 0x61 ≤ c.toNat := of_decide_eq_true hlow
      have hz : c.toNat ≤ 0x7A := of_decide_eq_true hhigh
      omega
  · decide
  · decide

/-- No blank stands between the exclamation mark and the tilde. -/
theorem not_isBlank_of_isNameStart {c : Char} (h : isNameStart c) : ¬ isBlank c := by
  intro hblank
  obtain ⟨hlow, hhigh⟩ := toNat_of_isNameStart h
  simp only [isBlank, CodePoints.contains, blanks, List.any_cons, List.any_nil, Bool.or_eq_true,
    Bool.and_eq_true, decide_eq_true_eq, Bool.or_false] at hblank
  omega

theorem token_of_plain {word : List Char} (h : isPlain word) : Token word := by
  cases word with
  | nil => cases h
  | cons c rest =>
    obtain ⟨hc, hrest⟩ := Bool.and_eq_true_iff.mp h
    refine ⟨List.cons_ne_nil c rest, List.forall_mem_cons.mpr ⟨not_isBlank_of_isNameStart hc, ?_⟩⟩
    intro d hd
    exact not_isBlank_of_isNamePart (List.all_eq_true.mp hrest d hd)

theorem arrow_token : Token arrow := by decide

theorem arrow_not_plain : ¬ isPlain arrow := by decide

/-! ## Words of a line -/

/-- The arrow is the first or the second of the words, and the given word stands behind it. -/
def BehindArrow (words : List (List Char)) (target : List Char) : Prop :=
  (∃ more, words = arrow :: target :: more) ∨ ∃ user more, words = user :: arrow :: target :: more

theorem ofWords?_of_plain {words : List (List Char)} {target : List Char}
    (h : BehindArrow words target) (hplain : isPlain target) : ofWords? words = some target := by
  have htarget : target? target = some target := target?_of_plain hplain
  have hne : target ≠ arrow := fun e => arrow_not_plain (e ▸ hplain)
  rcases h with ⟨more, rfl⟩ | ⟨user, more, rfl⟩
  · cases more <;> simp [ofWords?, hne, htarget]
  · simp [ofWords?, htarget]

/-- Of two words the first has to be the arrow. -/
theorem ofWords?_pair {first second name : List Char} (h : ofWords? [first, second] = some name) :
    first = arrow ∧ target? second = some name := by
  by_cases hfirst : first = arrow
  · exact ⟨hfirst, by simpa [ofWords?, hfirst] using h⟩
  · simp [ofWords?, hfirst] at h

/-- Of more words the first or the second has to be the arrow. -/
theorem ofWords?_more {first second third name : List Char} {more : List (List Char)}
    (h : ofWords? (first :: second :: third :: more) = some name) :
    (first = arrow ∧ target? second = some name) ∨ second = arrow ∧ target? third = some name := by
  by_cases hsecond : second = arrow
  · have harrow : target? arrow = none := by decide
    cases hthird : target? third with
    | some found => exact Or.inr ⟨hsecond, by simpa [ofWords?, hsecond, hthird] using h⟩
    | none => simp [ofWords?, hsecond, hthird, harrow] at h
  · by_cases hfirst : first = arrow
    · exact Or.inl ⟨hfirst, by simpa [ofWords?, hsecond, hfirst] using h⟩
    · simp [ofWords?, hsecond, hfirst] at h

theorem behindArrow_of_ofWords? {words : List (List Char)} {name : List Char}
    (h : ofWords? words = some name) : ∃ target, BehindArrow words target ∧
      target? target = some name := by
  match words, h with
  | [first, second], h =>
    obtain ⟨rfl, htarget⟩ := ofWords?_pair h
    exact ⟨second, Or.inl ⟨[], rfl⟩, htarget⟩
  | first :: second :: third :: more, h =>
    rcases ofWords?_more h with ⟨rfl, htarget⟩ | ⟨rfl, htarget⟩
    · exact ⟨second, Or.inl ⟨third :: more, rfl⟩, htarget⟩
    · exact ⟨third, Or.inr ⟨first, more, rfl⟩, htarget⟩

theorem Refers.behindArrow {line target : List Char} (h : Refers line target) :
    BehindArrow (words line) target := by
  cases h with
  | @first indent gap target rest hindent hgap htarget hrest =>
    refine Or.inl ⟨words rest, ?_⟩
    rw [words_append_of_blank hindent.blank, words_token_append arrow_token (hgap.endsWord _),
      words_append_of_blank hgap.blank, words_token_append htarget hrest]
  | @second indent user before gap target rest hindent huser hbefore hgap htarget hrest =>
    refine Or.inr ⟨user, words rest, ?_⟩
    rw [words_append_of_blank hindent.blank, words_token_append huser (hbefore.endsWord _),
      words_append_of_blank hbefore.blank, words_token_append arrow_token (hgap.endsWord _),
      words_append_of_blank hgap.blank, words_token_append htarget hrest]

theorem refers_of_behindArrow {line target : List Char} (hline : EndsWord line)
    (h : BehindArrow (words line) target) : Refers line target := by
  rcases h with ⟨more, h⟩ | ⟨user, more, h⟩
  · obtain ⟨indent, rest, rfl, hindent, _, hrest, h⟩ := words_eq_cons_of_endsWord hline h
    obtain ⟨gap, rest, rfl, hgap, htarget, hrest, _⟩ := words_eq_cons_of_endsWord hrest h
    exact .first hindent hgap htarget hrest
  · obtain ⟨indent, rest, rfl, hindent, huser, hrest, h⟩ := words_eq_cons_of_endsWord hline h
    obtain ⟨before, rest, rfl, hbefore, _, hrest, h⟩ := words_eq_cons_of_endsWord hrest h
    obtain ⟨gap, rest, rfl, hgap, htarget, hrest, _⟩ := words_eq_cons_of_endsWord hrest h
    exact .second hindent huser hbefore hgap htarget hrest

/-! ## What a line refers to -/

theorem ofLine?_indent {indent : List Char} (h : Gap indent) (s : List Char) :
    ofLine? (indent ++ s) = ofWords? (words (indent ++ s)) := by
  cases indent with
  | nil => exact absurd rfl h.ne_nil
  | cons b indent =>
    have hb : isBlank b := h.blank b List.mem_cons_self
    rw [List.cons_append, ofLine?, if_pos hb, words_cons_of_blank hb]

/-- A line that does not start with a blank refers to nothing. -/
theorem ofLine?_unindented {line : List Char} (h : ∀ c ∈ line.head?, ¬ isBlank c) :
    ofLine? line = none := by
  cases line with
  | nil => rfl
  | cons c line => rw [ofLine?, if_neg (h c rfl)]

theorem Refers.ofLine?_eq {line target : List Char} (h : Refers line target) :
    ofLine? line = ofWords? (words line) := by
  cases h with
  | first hindent => exact ofLine?_indent hindent _
  | second hindent => exact ofLine?_indent hindent _

theorem Refers.ofLine?_of_plain {line target : List Char} (h : Refers line target)
    (hplain : isPlain target) : ofLine? line = some target := by
  rw [h.ofLine?_eq, ofWords?_of_plain h.behindArrow hplain]

theorem refers_of_ofLine? {line name : List Char} (h : ofLine? line = some name) :
    ∃ target, Refers line target ∧ target? target = some name := by
  cases line with
  | nil => cases h
  | cons c line =>
    rw [ofLine?] at h
    split at h
    · rename_i hc
      obtain ⟨target, hbehind, htarget⟩ := behindArrow_of_ofWords? h
      rw [← words_cons_of_blank hc] at hbehind
      have hline : EndsWord (c :: line) := fun d hd => Option.some.inj hd ▸ hc
      exact ⟨target, refers_of_behindArrow hline hbehind, htarget⟩
    · cases h

/-! ## Which targets are taken whole -/

/-- Some line of the text refers to the word. -/
def Target (content target : List Char) : Prop := ∃ line ∈ lines content, Refers line target

/-- A word that may be the name of a class: none of the characters stand in it that separate
packages, end a descriptor or mark an array in class files. -/
def IsClassName (word : List Char) : Prop := word ≠ [] ∧ '/' ∉ word ∧ ';' ∉ word ∧ '[' ∉ word

instance (word : List Char) : Decidable (IsClassName word) := by
  unfold IsClassName
  infer_instance

/-- Every target that may be the name of a class is found, and only whole targets are, unless a
target cannot be the name of a class. -/
structure TakenWhole (content : List Char) : Prop where
  kept : ∀ t, Target content t → IsClassName t → String.ofList t ∈ Format.jdeps.classes content
  whole : ∀ name ∈ Format.jdeps.classes content, Target content name.toList ∨
    ∃ t, Target content t ∧ ¬ IsClassName t ∧ name.toList <+: t

theorem mem_classes_iff {content : List Char} {name : String} :
    name ∈ Format.jdeps.classes content ↔
      ∃ line ∈ lines content, ofLine? line = some name.toList := by
  have hclasses : Format.jdeps.classes content =
      Ascending.strings ((classes content).map String.ofList) := rfl
  rw [hclasses, Ascending.mem_strings, List.mem_map]
  simp only [classes, List.mem_filterMap]
  refine ⟨?_, ?_⟩
  · intro hparts
    obtain ⟨found, ⟨line, hline, hfound⟩, rfl⟩ := hparts
    exact ⟨line, hline, by rw [String.toList_ofList, hfound]⟩
  · intro hparts
    obtain ⟨line, hline, hfound⟩ := hparts
    exact ⟨name.toList, ⟨line, hline, hfound⟩, String.ofList_toList⟩

theorem Target.mem_classes {content target : List Char} (h : Target content target)
    (hplain : isPlain target) : String.ofList target ∈ Format.jdeps.classes content := by
  obtain ⟨line, hline, hrefers⟩ := h
  rw [mem_classes_iff, String.toList_ofList]
  exact ⟨line, hline, hrefers.ofLine?_of_plain hplain⟩

/-- What is found is the plain name that a target starts with. -/
theorem target_of_mem_classes {content : List Char} {name : String}
    (h : name ∈ Format.jdeps.classes content) :
    ∃ t, Target content t ∧ target? t = some name.toList := by
  obtain ⟨line, hline, hfound⟩ := mem_classes_iff.mp h
  obtain ⟨t, hrefers, ht⟩ := refers_of_ofLine? hfound
  exact ⟨t, ⟨line, hline, hrefers⟩, ht⟩

theorem targets_taken_whole_iff (content : List Char) :
    TakenWhole content ↔ ∀ t, Target content t → IsClassName t → isPlain t := by
  refine ⟨?_, ?_⟩
  · intro hwhole t ht hname
    -- what is found is plain, and so is the target if it is found
    obtain ⟨u, _, hu⟩ := target_of_mem_classes (hwhole.kept t ht hname)
    rw [String.toList_ofList] at hu
    exact (plain_of_target? hu).1
  · intro hplain
    refine ⟨fun t ht hname => ht.mem_classes (hplain t ht hname), ?_⟩
    intro name hfound
    obtain ⟨t, ht, hstart⟩ := target_of_mem_classes hfound
    by_cases hname : IsClassName t
    · have hsame := (target?_of_plain (hplain t ht hname)).symm.trans hstart
      exact Or.inl (Option.some.inj hsame ▸ ht)
    · exact Or.inr ⟨t, ht, hname, (plain_of_target? hstart).2⟩

/-! ## Targets that are not plain

The first target has a hyphen behind its package, and is cut short there. The second one starts
with a letter that is not ASCII, and is lost. -/

/-- The output for a class that uses two others. -/
def unplainOutput : List Char :=
  "   app.Main -> text.-Lines text.jar\n   app.Main -> \u00e9clair.Cake cake.jar\n".toList

theorem hyphen_cuts_target_short : ¬ ∀ content, TakenWhole content := by
  intro hwhole
  have hfound : Format.jdeps.classes unplainOutput = ["text."] := by decide +kernel
  have hline : "   app.Main -> text.-Lines text.jar".toList ∈ lines unplainOutput := by
    decide +kernel
  have hbehind : BehindArrow (words "   app.Main -> text.-Lines text.jar".toList)
      "text.-Lines".toList :=
    Or.inr ⟨"app.Main".toList, ["text.jar".toList], by decide +kernel⟩
  have hindented : Gap "   ".toList := by decide +kernel
  have hrefers : Refers "   app.Main -> text.-Lines text.jar".toList "text.-Lines".toList :=
    refers_of_behindArrow (hindented.endsWord "app.Main -> text.-Lines text.jar".toList) hbehind
  have hkept := (hwhole unplainOutput).kept _ ⟨_, hline, hrefers⟩ (by decide +kernel)
  rw [hfound] at hkept
  revert hkept
  decide +kernel

/-! ## Two layouts -/

/-- A class that another one uses, and where it was found. -/
structure Edge where
  target : List Char
  location : List Char
  plain : isPlain target
  oneLine : OneLine location

/-- A class, the archive that it lies in, and the classes that it uses. -/
structure User where
  name : List Char
  archive : List Char
  edges : List Edge
  token : Token name
  oneLine : OneLine archive

/-- Blanks that end no line, and at least one. -/
structure Spacing (s : List Char) : Prop extends Gap s where
  oneLine : OneLine s

instance (s : List Char) : Decidable (Spacing s) :=
  decidable_of_iff (Gap s ∧ OneLine s)
    ⟨fun ⟨hgap, hone⟩ => ⟨hgap, hone⟩, fun h => ⟨h.toGap, h.oneLine⟩⟩

/-- The line above the edges of a class, in the grouped layout. -/
def HeaderLine (u : User) (line : List Char) : Prop :=
  ∃ indent gap, Spacing indent ∧ Spacing gap ∧
    line = indent ++ (u.name ++ (gap ++ '(' :: (u.archive ++ [')'])))

/-- The line of an edge below its class. -/
def GroupedLine (e : Edge) (line : List Char) : Prop :=
  ∃ indent gap behind, Spacing indent ∧ Spacing gap ∧ Spacing behind ∧
    line = indent ++ (arrow ++ (gap ++ (e.target ++ (behind ++ e.location))))

/-- The line of an edge that names the user too. -/
def FullLine (user : List Char) (e : Edge) (line : List Char) : Prop :=
  ∃ indent before gap behind, Spacing indent ∧ Spacing before ∧ Spacing gap ∧ Spacing behind ∧
    line = indent ++ (user ++ (before ++ (arrow ++ (gap ++ (e.target ++ (behind ++ e.location))))))

/-- Each class stands in a line of its own, with the lines of its edges below. -/
inductive Grouped : List User → List (List Char) → Prop where
  | nil : Grouped [] []
  | cons {u : User} {us : List User} {header : List Char} {edges rest : List (List Char)} :
      HeaderLine u header → List.Forall₂ GroupedLine u.edges edges → Grouped us rest →
      Grouped (u :: us) (header :: (edges ++ rest))

/-- Each edge stands in a line of its own, with its user. -/
inductive Full : List User → List (List Char) → Prop where
  | nil : Full [] []
  | cons {u : User} {us : List User} {edges rest : List (List Char)} :
      List.Forall₂ (FullLine u.name) u.edges edges → Full us rest → Full (u :: us) (edges ++ rest)

/-- A line that is not indented, as those are that sum up archives. -/
structure Summary (line : List Char) : Prop where
  oneLine : OneLine line
  unindented : ∀ c ∈ line.head?, ¬ isBlank c

/-- The lines with summaries put in anywhere. -/
inductive WithSummaries : List (List Char) → List (List Char) → Prop where
  | nil : WithSummaries [] []
  | keep {line : List Char} {ls more : List (List Char)} :
      WithSummaries ls more → WithSummaries (line :: ls) (line :: more)
  | insert {summary : List Char} {ls more : List (List Char)} :
      Summary summary → WithSummaries ls more → WithSummaries ls (summary :: more)

theorem WithSummaries.refl : ∀ ls : List (List Char), WithSummaries ls ls
  | [] => .nil
  | _ :: ls => .keep (.refl ls)

/-- The text is the output for the classes in a layout, with summaries anywhere and one kind of
line ending. -/
def Prints (layout : List User → List (List Char) → Prop) (users : List User)
    (content : List Char) : Prop :=
  ∃ ls more ending, layout users ls ∧ WithSummaries ls more ∧ LineEnding ending ∧
    Lined ending more content

/-! ## What the lines of a layout refer to -/

/-- The lines are single ones, and refer to the given targets in their order. -/
structure Shows (ls targets : List (List Char)) : Prop where
  oneLine : ∀ line ∈ ls, OneLine line
  found : ls.filterMap ofLine? = targets

theorem Shows.nil : Shows [] [] := ⟨fun _ h => absurd h List.not_mem_nil, rfl⟩

theorem Shows.append {ls ls' targets targets' : List (List Char)} (h : Shows ls targets)
    (h' : Shows ls' targets') : Shows (ls ++ ls') (targets ++ targets') where
  oneLine := List.forall_mem_append.mpr ⟨h.oneLine, h'.oneLine⟩
  found := by rw [List.filterMap_append, h.found, h'.found]

theorem Shows.cons_none {line : List Char} {ls targets : List (List Char)} (hone : OneLine line)
    (hnone : ofLine? line = none) (h : Shows ls targets) : Shows (line :: ls) targets where
  oneLine := List.forall_mem_cons.mpr ⟨hone, h.oneLine⟩
  found := by rw [List.filterMap_cons_none hnone, h.found]

theorem Shows.cons_some {line target : List Char} {ls targets : List (List Char)}
    (hone : OneLine line) (hsome : ofLine? line = some target) (h : Shows ls targets) :
    Shows (line :: ls) (target :: targets) where
  oneLine := List.forall_mem_cons.mpr ⟨hone, h.oneLine⟩
  found := by rw [List.filterMap_cons_some hsome, h.found]

theorem arrow_oneLine : OneLine arrow := arrow_token.oneLine

theorem HeaderLine.shows {u : User} {line : List Char} (h : HeaderLine u line) :
    OneLine line ∧ ofLine? line = none := by
  obtain ⟨indent, gap, hindent, hgap, rfl⟩ := h
  refine ⟨?_, ?_⟩
  · have hparens : OneLine ('(' :: (u.archive ++ [')'])) :=
      List.forall_mem_cons.mpr ⟨by decide, oneLine_append.mpr ⟨u.oneLine, by decide⟩⟩
    simp only [oneLine_append]
    exact ⟨hindent.oneLine, u.token.oneLine, hgap.oneLine, hparens⟩
  · -- the second word starts with a parenthesis, so it is neither an arrow nor a name
    obtain ⟨word, others, hwords⟩ :=
      words_cons_of_solid (by decide : ¬ isBlank '(') (u.archive ++ [')'])
    have hnone : target? ('(' :: word) = none := rfl
    have hne : '(' :: word ≠ arrow := by simp [arrow]
    rw [ofLine?_indent hindent.toGap, words_append_of_blank hindent.blank,
      words_token_append u.token (hgap.endsWord _), words_append_of_blank hgap.blank, hwords]
    cases others <;> simp [ofWords?, hne, hnone]

theorem GroupedLine.shows {e : Edge} {line : List Char} (h : GroupedLine e line) :
    OneLine line ∧ ofLine? line = some e.target := by
  obtain ⟨indent, gap, behind, hindent, hgap, hbehind, rfl⟩ := h
  have htarget : Token e.target := token_of_plain e.plain
  refine ⟨?_, ?_⟩
  · simp only [oneLine_append]
    exact ⟨hindent.oneLine, arrow_oneLine, hgap.oneLine, htarget.oneLine, hbehind.oneLine,
      e.oneLine⟩
  · exact (Refers.first hindent.toGap hgap.toGap htarget (hbehind.endsWord _)).ofLine?_of_plain
      e.plain

theorem FullLine.shows {u : User} {e : Edge} {line : List Char} (h : FullLine u.name e line) :
    OneLine line ∧ ofLine? line = some e.target := by
  obtain ⟨indent, before, gap, behind, hindent, hbefore, hgap, hbehind, rfl⟩ := h
  have htarget : Token e.target := token_of_plain e.plain
  refine ⟨?_, ?_⟩
  · simp only [oneLine_append]
    exact ⟨hindent.oneLine, u.token.oneLine, hbefore.oneLine, arrow_oneLine, hgap.oneLine,
      htarget.oneLine, hbehind.oneLine, e.oneLine⟩
  · exact (Refers.second hindent.toGap u.token hbefore.toGap hgap.toGap htarget
      (hbehind.endsWord _)).ofLine?_of_plain e.plain

/-- Lines that each refer to the target of an edge. -/
theorem shows_of_edges {p : Edge → List Char → Prop} {edges : List Edge} {ls : List (List Char)}
    (hp : ∀ {e line}, p e line → OneLine line ∧ ofLine? line = some e.target)
    (h : List.Forall₂ p edges ls) : Shows ls (edges.map Edge.target) := by
  induction h with
  | nil => exact .nil
  | cons hline _ ih => exact ih.cons_some (hp hline).1 (hp hline).2

def targets (users : List User) : List (List Char) :=
  users.flatMap fun u => u.edges.map Edge.target

theorem Grouped.shows {users : List User} {ls : List (List Char)} (h : Grouped users ls) :
    Shows ls (targets users) := by
  induction h with
  | nil => exact .nil
  | cons hheader hedges _ ih =>
    exact ((shows_of_edges GroupedLine.shows hedges).append ih).cons_none hheader.shows.1
      hheader.shows.2

theorem Full.shows {users : List User} {ls : List (List Char)} (h : Full users ls) :
    Shows ls (targets users) := by
  induction h with
  | nil => exact .nil
  | cons hedges _ ih => exact (shows_of_edges FullLine.shows hedges).append ih

theorem WithSummaries.shows {ls more targets : List (List Char)} (h : WithSummaries ls more)
    (hls : Shows ls targets) : Shows more targets := by
  induction h generalizing targets with
  | nil => exact hls
  | insert hsummary _ ih =>
    exact (ih hls).cons_none hsummary.oneLine (ofLine?_unindented hsummary.unindented)
  | @keep line ls more _ ih =>
    obtain ⟨hone, hrest⟩ := List.forall_mem_cons.mp hls.oneLine
    have hshown : Shows more (ls.filterMap ofLine?) := ih ⟨hrest, rfl⟩
    have hfound := hls.found
    cases hline : ofLine? line with
    | none =>
      rw [List.filterMap_cons_none hline] at hfound
      exact (hfound ▸ hshown).cons_none hone hline
    | some target =>
      rw [List.filterMap_cons_some hline] at hfound
      exact hfound ▸ hshown.cons_some hone hline

/-- What is found in the output is the set of the targets, whichever layout it has. -/
theorem Prints.classes_eq {layout : List User → List (List Char) → Prop} {users : List User}
    {content : List Char} (hlayout : ∀ {ls}, layout users ls → Shows ls (targets users))
    (h : Prints layout users content) :
    Format.jdeps.classes content = Ascending.strings ((targets users).map String.ofList) := by
  obtain ⟨ls, more, ending, hls, hmore, hend, hlined⟩ := h
  have hshows := hmore.shows (hlayout hls)
  have hlines : lines content = more := lines_of_lined hend hshows.oneLine hlined
  have hclasses : classes content = targets users := by rw [classes, hlines, hshows.found]
  rw [Format.classes, hclasses]

theorem layouts_agree {users : List User} {content content' : List Char}
    (h : Prints Grouped users content) (h' : Prints Full users content') :
    Format.jdeps.classes content = Format.jdeps.classes content' ∧
      ∀ name, name ∈ Format.jdeps.classes content ↔
        ∃ u ∈ users, ∃ e ∈ u.edges, String.ofList e.target = name := by
  have hgrouped := h.classes_eq Grouped.shows
  have hfull := h'.classes_eq Full.shows
  refine ⟨hgrouped.trans hfull.symm, fun name => ?_⟩
  rw [hgrouped, Ascending.mem_strings]
  simp only [targets, List.mem_map, List.mem_flatMap]
  refine ⟨?_, ?_⟩
  · intro hparts
    obtain ⟨_, ⟨u, hu, e, he, rfl⟩, hname⟩ := hparts
    exact ⟨u, hu, e, he, hname⟩
  · intro hparts
    obtain ⟨u, hu, e, he, hname⟩ := hparts
    exact ⟨_, ⟨u, hu, e, he, rfl⟩, hname⟩

/-! ## An output in both layouts

One of the classes is named like an arrow, and one of the locations has an arrow in it. A summary
stands in front of the grouped lines and in the middle of the others, whose lines end otherwise. -/

/-- The class that both use. -/
def linesEdge : Edge where
  target := "text.Lines".toList
  location := "text.jar".toList
  plain := by decide +kernel
  oneLine := by decide +kernel

/-- The class that only one of them uses. -/
def objectEdge : Edge where
  target := "java.lang.Object".toList
  location := "java.base -> x.X".toList
  plain := by decide +kernel
  oneLine := by decide +kernel

/-- The class that uses both. -/
def mainUser : User where
  name := "app.Main".toList
  archive := "app.jar".toList
  edges := [linesEdge, objectEdge]
  token := by decide +kernel
  oneLine := by decide +kernel

/-- The class that is named like an arrow. -/
def arrowUser : User where
  name := arrow
  archive := "my odd.jar".toList
  edges := [linesEdge]
  token := arrow_token
  oneLine := by decide +kernel

def sampleSummary : List Char := "app.jar -> text.jar".toList

theorem sampleSummary_summary : Summary sampleSummary where
  oneLine := by decide +kernel
  unindented c hc := by
    obtain rfl : 'a' = c := Option.some.inj hc
    decide

/-- The output with the edges below their classes. -/
def groupedOutput : List Char :=
  [sampleSummary, "   app.Main (app.jar)".toList, "      -> text.Lines   text.jar".toList,
    "\t-> java.lang.Object java.base -> x.X".toList, "  ->  (my odd.jar)".toList,
    "  -> text.Lines text.jar".toList].flatMap fun line => line ++ ['\n']

/-- The output with one line for each edge. -/
def fullOutput : List Char :=
  ["   app.Main -> text.Lines   text.jar".toList,
    " app.Main  -> java.lang.Object java.base -> x.X".toList, sampleSummary,
    "  -> -> text.Lines text.jar".toList].flatMap fun line => line ++ ['\r', '\n']

theorem groupedOutput_prints : Prints Grouped [mainUser, arrowUser] groupedOutput := by
  have hmain : HeaderLine mainUser "   app.Main (app.jar)".toList :=
    ⟨"   ".toList, " ".toList, by decide +kernel, by decide +kernel, by decide +kernel⟩
  have hlines : GroupedLine linesEdge "      -> text.Lines   text.jar".toList :=
    ⟨"      ".toList, " ".toList, "   ".toList, by decide +kernel, by decide +kernel,
      by decide +kernel, by decide +kernel⟩
  have hobject : GroupedLine objectEdge "\t-> java.lang.Object java.base -> x.X".toList :=
    ⟨"\t".toList, " ".toList, " ".toList, by decide +kernel, by decide +kernel,
      by decide +kernel, by decide +kernel⟩
  have harrow : HeaderLine arrowUser "  ->  (my odd.jar)".toList :=
    ⟨"  ".toList, "  ".toList, by decide +kernel, by decide +kernel, by decide +kernel⟩
  have hlines' : GroupedLine linesEdge "  -> text.Lines text.jar".toList :=
    ⟨"  ".toList, " ".toList, " ".toList, by decide +kernel, by decide +kernel,
      by decide +kernel, by decide +kernel⟩
  have hgrouped := Grouped.cons hmain (.cons hlines (.cons hobject .nil))
    (.cons harrow (.cons hlines' .nil) .nil)
  exact ⟨_, _, ['\n'], hgrouped, .insert sampleSummary_summary (.refl _), .single (by decide),
    lined_flatMap _ _⟩

theorem fullOutput_prints : Prints Full [mainUser, arrowUser] fullOutput := by
  have hlines : FullLine mainUser.name linesEdge "   app.Main -> text.Lines   text.jar".toList :=
    ⟨"   ".toList, " ".toList, " ".toList, "   ".toList, by decide +kernel, by decide +kernel,
      by decide +kernel, by decide +kernel, by decide +kernel⟩
  have hobject : FullLine mainUser.name objectEdge
      " app.Main  -> java.lang.Object java.base -> x.X".toList :=
    ⟨" ".toList, "  ".toList, " ".toList, " ".toList, by decide +kernel, by decide +kernel,
      by decide +kernel, by decide +kernel, by decide +kernel⟩
  have hlines' : FullLine arrowUser.name linesEdge "  -> -> text.Lines text.jar".toList :=
    ⟨"  ".toList, " ".toList, " ".toList, " ".toList, by decide +kernel, by decide +kernel,
      by decide +kernel, by decide +kernel, by decide +kernel⟩
  have hfull := Full.cons (.cons hlines (.cons hobject .nil)) (.cons (.cons hlines' .nil) .nil)
  exact ⟨_, _, ['\r', '\n'], hfull, .keep (.keep (.insert sampleSummary_summary (.refl _))), .pair,
    lined_flatMap _ _⟩

theorem sample_layouts_agree :
    Prints Grouped [mainUser, arrowUser] groupedOutput ∧
      Prints Full [mainUser, arrowUser] fullOutput ∧
      Format.jdeps.classes groupedOutput = Format.jdeps.classes fullOutput ∧
      "java.lang.Object" ∈ Format.jdeps.classes groupedOutput := by
  obtain ⟨hsame, htargets⟩ := layouts_agree groupedOutput_prints fullOutput_prints
  refine ⟨groupedOutput_prints, fullOutput_prints, hsame, (htargets _).mpr ?_⟩
  exact ⟨mainUser, List.mem_cons_self, objectEdge, List.mem_cons_of_mem _ List.mem_cons_self,
    String.ofList_toList⟩

end DependencyAudit.Reference.Jdeps
