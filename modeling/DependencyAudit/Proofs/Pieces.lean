import DependencyAudit.Text.Characters
import DependencyAudit.Text.Split

/-!
Texts that are put together from words and blanks, from pieces and a separator, or from lines,
and what is read off them. A word in front of a text is its first word if the text goes on with a
blank or not at all (`words_token_append`), and the first word of a text can be cut off again
(`words_eq_cons`). Pieces are read back if the separator stands in none of them
(`splitAt_intercalate`), and every text is its pieces with the separator between them
(`intercalate_splitAt`). Lines are read back with whatever ends them, and the last of them may
lack its ending (`lines_of_lined`); each may end in its own way, where nothing is read off an
empty line (`filterMap_lines_of_separated`).
-/

namespace DependencyAudit.Text

/-! ## Classes of characters -/

/-- No range of the one set meets a range of the other. -/
def CodePoints.Disjoint (s t : CodePoints) : Prop :=
  ∀ r ∈ s.ranges, ∀ q ∈ t.ranges, r.2 < q.1 ∨ q.2 < r.1

-- Compared as Booleans, since the tables are long.
instance (s t : CodePoints) : Decidable (s.Disjoint t) :=
  decidable_of_iff (s.ranges.all fun r => t.ranges.all fun q => r.2.blt q.1 || q.2.blt r.1)
    (by simp [CodePoints.Disjoint])

theorem CodePoints.Disjoint.not_contains {s t : CodePoints} (h : s.Disjoint t) {c : Char}
    (hs : s.contains c) : ¬ t.contains c := by
  intro ht
  obtain ⟨r, hr, hcr⟩ := List.any_eq_true.mp hs
  obtain ⟨q, hq, hcq⟩ := List.any_eq_true.mp ht
  simp only [Bool.and_eq_true, decide_eq_true_eq] at hcr hcq
  have hapart := h r hr q hq
  omega

theorem not_isBlank_of_isWord {c : Char} (h : isWord c) : ¬ isBlank c := by
  have hdisjoint : wordCharacters.Disjoint blanks := by decide +kernel
  exact hdisjoint.not_contains h

theorem isBlank_of_isLineEnd {c : Char} (h : isLineEnd c) : isBlank c := by
  simp only [isLineEnd, Bool.or_eq_true, Bool.and_eq_true, decide_eq_true_eq, beq_iff_eq] at h
  simp only [isBlank, CodePoints.contains, blanks, List.any_cons, List.any_nil, Bool.or_eq_true,
    Bool.and_eq_true, decide_eq_true_eq, Bool.or_false]
  omega

/-! ## Words -/

/-- Blanks, and at least one. -/
structure Gap (s : List Char) : Prop where
  ne_nil : s ≠ []
  blank : ∀ c ∈ s, isBlank c

/-- Characters that are not blank, and at least one. -/
structure Token (s : List Char) : Prop where
  ne_nil : s ≠ []
  solid : ∀ c ∈ s, ¬ isBlank c

/-- Behind a word the text ends or goes on with a blank. -/
def EndsWord (s : List Char) : Prop := ∀ c ∈ s.head?, isBlank c

instance (s : List Char) : Decidable (Gap s) :=
  decidable_of_iff (s ≠ [] ∧ s.all isBlank)
    ⟨fun ⟨hne, hall⟩ => ⟨hne, List.all_eq_true.mp hall⟩,
      fun h => ⟨h.ne_nil, List.all_eq_true.mpr h.blank⟩⟩

instance (s : List Char) : Decidable (Token s) :=
  decidable_of_iff (s ≠ [] ∧ s.all fun c => !isBlank c)
    ⟨fun ⟨hne, hall⟩ => ⟨hne, by simpa using hall⟩,
      fun h => ⟨h.ne_nil, by simpa using h.solid⟩⟩

theorem Gap.endsWord {gap : List Char} (h : Gap gap) (s : List Char) : EndsWord (gap ++ s) := by
  cases gap with
  | nil => exact absurd rfl h.ne_nil
  | cons b gap =>
    intro c hc
    obtain rfl : b = c := by simpa using hc
    exact h.blank b List.mem_cons_self

/-- Between the end of a word and another one there is a gap. -/
theorem gap_of_endsWord {gap word s : List Char} (hgap : ∀ c ∈ gap, isBlank c)
    (hword : Token word) (h : EndsWord (gap ++ (word ++ s))) : Gap gap := by
  refine ⟨?_, hgap⟩
  intro hnil
  obtain ⟨c, word, rfl⟩ := List.exists_cons_of_ne_nil hword.ne_nil
  rw [hnil] at h
  exact hword.solid c List.mem_cons_self (h c rfl)

theorem exists_splitWhen (p : Char → Bool) : ∀ s : List Char,
    ∃ piece pieces, splitWhen p s = piece :: pieces
  | [] => ⟨[], [], rfl⟩
  | c :: s => by
    obtain ⟨piece, pieces, h⟩ := exists_splitWhen p s
    rw [splitWhen, h]
    split
    · exact ⟨_, _, rfl⟩
    · exact ⟨_, _, rfl⟩

theorem splitWhen_append {p : Char → Bool} {s piece : List Char} {pieces : List (List Char)}
    (h : splitWhen p s = piece :: pieces) : ∀ {word : List Char}, (∀ c ∈ word, ¬ p c) →
    splitWhen p (word ++ s) = (word ++ piece) :: pieces
  | [], _ => h
  | c :: word, hword => by
    obtain ⟨hc, hrest⟩ := List.forall_mem_cons.mp hword
    rw [List.cons_append, splitWhen, if_neg hc, splitWhen_append h hrest]
    rfl

theorem words_cons_of_blank {c : Char} (h : isBlank c) (s : List Char) :
    words (c :: s) = words s := by
  simp [words, splitWhen, h]

theorem words_append_of_blank : ∀ {gap : List Char}, (∀ c ∈ gap, isBlank c) →
    ∀ s : List Char, words (gap ++ s) = words s
  | [], _, _ => rfl
  | c :: gap, hgap, s => by
    obtain ⟨hc, hrest⟩ := List.forall_mem_cons.mp hgap
    rw [List.cons_append, words_cons_of_blank hc, words_append_of_blank hrest]

theorem splitWhen_of_endsWord {s : List Char} (h : EndsWord s) :
    ∃ pieces, splitWhen isBlank s = [] :: pieces := by
  cases s with
  | nil => exact ⟨[], rfl⟩
  | cons c s =>
    have hc : isBlank c := h c rfl
    exact ⟨splitWhen isBlank s, by rw [splitWhen, if_pos hc]⟩

theorem words_token_append {word s : List Char} (hword : Token word) (hs : EndsWord s) :
    words (word ++ s) = word :: words s := by
  obtain ⟨pieces, hpieces⟩ := splitWhen_of_endsWord hs
  have hsplit := splitWhen_append hpieces hword.solid
  rw [List.append_nil] at hsplit
  simp [words, hsplit, hpieces, hword.ne_nil]

/-- The first word stands behind blanks, and in front of a text with the other words. -/
theorem words_eq_cons {s word : List Char} {others : List (List Char)}
    (h : words s = word :: others) :
    ∃ gap rest, s = gap ++ (word ++ rest) ∧ (∀ c ∈ gap, isBlank c) ∧ Token word ∧
      EndsWord rest ∧ words rest = others := by
  have hgap : ∀ c ∈ s.takeWhile isBlank, isBlank c :=
    List.all_eq_true.mp List.all_takeWhile
  have hs : s.takeWhile isBlank ++ s.dropWhile isBlank = s := List.takeWhile_append_dropWhile
  have hwords : words (s.dropWhile isBlank) = word :: others := by
    rw [← h, ← words_append_of_blank hgap, hs]
  generalize hd : s.dropWhile isBlank = d at hs hwords
  cases d with
  | nil => cases hwords
  | cons c d =>
    have hc : ¬ isBlank c := by
      have hhead := List.head?_dropWhile_not isBlank s
      rw [hd] at hhead
      simpa using hhead
    -- the word is the longest part of the text in front of which no blank stands
    let first := (c :: d).takeWhile fun c => !isBlank c
    let rest := (c :: d).dropWhile fun c => !isBlank c
    have happend : first ++ rest = c :: d := List.takeWhile_append_dropWhile
    have hfirst : Token first := by
      refine ⟨by simp [first, hc], ?_⟩
      intro x hx
      have hsolid := List.all_eq_true.mp List.all_takeWhile x hx
      simpa using hsolid
    have hrest : EndsWord rest := by
      intro x hx
      have hhead := List.head?_dropWhile_not (fun c => !isBlank c) (c :: d)
      rw [show (c :: d).dropWhile (fun c => !isBlank c) = rest from rfl, hx] at hhead
      simpa using hhead
    rw [← happend, words_token_append hfirst hrest] at hwords
    obtain ⟨rfl, rfl⟩ := List.cons.inj hwords
    exact ⟨_, rest, by rw [happend, hs], hgap, hfirst, hrest, rfl⟩

/-- Behind the end of a word, the next word stands behind a gap. -/
theorem words_eq_cons_of_endsWord {s word : List Char} {others : List (List Char)}
    (hs : EndsWord s) (h : words s = word :: others) :
    ∃ gap rest, s = gap ++ (word ++ rest) ∧ Gap gap ∧ Token word ∧ EndsWord rest ∧
      words rest = others := by
  obtain ⟨gap, rest, rfl, hgap, hword, hrest, hothers⟩ := words_eq_cons h
  exact ⟨gap, rest, rfl, gap_of_endsWord hgap hword hs, hword, hrest, hothers⟩

/-- A character that is not blank starts the first word. -/
theorem words_cons_of_solid {c : Char} (h : ¬ isBlank c) (s : List Char) :
    ∃ word others, words (c :: s) = (c :: word) :: others := by
  obtain ⟨piece, pieces, hpieces⟩ := exists_splitWhen isBlank s
  refine ⟨piece, pieces.filter (!·.isEmpty), ?_⟩
  simp [words, splitWhen, h, hpieces]

/-! ## Beginnings and endings -/

theorem after?_eq_some_iff {start s rest : List Char} :
    after? start s = some rest ↔ s = start ++ rest := by
  induction start generalizing s with
  | nil => simp [after?]
  | cons a start ih =>
    cases s with
    | nil => simp [after?]
    | cons c s =>
      by_cases h : a = c
      · simp [after?, h, ih]
      · simp [after?, h, Ne.symm h]

theorem after?_eq_none_iff {start s : List Char} : after? start s = none ↔ ¬ start <+: s := by
  rw [Option.eq_none_iff_forall_ne_some, List.prefix_iff_exists_append_eq, not_exists]
  refine forall_congr' fun rest => ?_
  rw [Ne, after?_eq_some_iff, eq_comm]

theorem before?_eq_some_iff {ending s rest : List Char} :
    before? ending s = some rest ↔ s = rest ++ ending := by
  rw [before?, Option.map_eq_some_iff]
  refine ⟨?_, ?_⟩
  · intro hparts
    obtain ⟨r, hr, rfl⟩ := hparts
    have hs : s.reverse.reverse = (ending.reverse ++ r).reverse :=
      congrArg List.reverse (after?_eq_some_iff.mp hr)
    simpa using hs
  · intro hs
    refine ⟨rest.reverse, ?_, List.reverse_reverse rest⟩
    rw [hs, after?_eq_some_iff, List.reverse_append]

theorem before?_eq_none_iff {ending s : List Char} : before? ending s = none ↔ ¬ ending <:+ s := by
  rw [Option.eq_none_iff_forall_ne_some, List.suffix_iff_exists_append_eq, not_exists]
  refine forall_congr' fun rest => ?_
  rw [Ne, before?_eq_some_iff, eq_comm]

/-! ## Separated pieces -/

theorem splitAt_of_not_mem {sep : Char} {s : List Char} (h : sep ∉ s) : splitAt sep s = [s] := by
  have hplain : ∀ c ∈ s, ¬ (c == sep) = true := by
    intro c hc heq
    exact h (eq_of_beq heq ▸ hc)
  have hsplit := splitWhen_append (p := (· == sep)) (s := []) rfl hplain
  rwa [List.append_nil] at hsplit

theorem not_mem_of_mem_splitAt {sep : Char} : ∀ {s piece : List Char},
    piece ∈ splitAt sep s → sep ∉ piece
  | [], piece, h => by
    obtain rfl : piece = [] := by simpa [splitAt, splitWhen] using h
    exact List.not_mem_nil
  | c :: s, piece, h => by
    have ih : ∀ piece ∈ splitWhen (· == sep) s, sep ∉ piece := fun _ => not_mem_of_mem_splitAt
    unfold splitAt splitWhen at h
    split at h
    · rcases List.mem_cons.mp h with rfl | h
      · exact List.not_mem_nil
      · exact ih piece h
    · rename_i hc
      have hne : sep ≠ c := fun heq => hc (beq_iff_eq.mpr heq.symm)
      split at h
      · obtain rfl := List.mem_singleton.mp h
        exact fun hmem => hne (List.mem_singleton.mp hmem)
      · rename_i first pieces hpieces
        rw [hpieces] at ih
        rcases List.mem_cons.mp h with rfl | h
        · intro hmem
          rcases List.mem_cons.mp hmem with heq | hmem
          · exact hne heq
          · exact ih first List.mem_cons_self hmem
        · exact ih piece (List.mem_cons_of_mem _ h)

theorem splitAt_append (sep : Char) (s t : List Char) :
    splitAt sep (s ++ sep :: t) = splitAt sep s ++ splitAt sep t := by
  induction s with
  | nil => simp [splitAt, splitWhen]
  | cons c s ih =>
    simp only [splitAt, List.cons_append] at ih ⊢
    by_cases hc : c = sep
    · simp [splitWhen, hc, ih]
    · obtain ⟨piece, pieces, hpieces⟩ := exists_splitWhen (· == sep) s
      simp [splitWhen, hc, ih, hpieces]

theorem splitAt_intercalate {sep : Char} : ∀ {pieces : List (List Char)}, pieces ≠ [] →
    (∀ piece ∈ pieces, sep ∉ piece) → splitAt sep ([sep].intercalate pieces) = pieces
  | [], h, _ => absurd rfl h
  | [piece], _, h => by
    rw [List.intercalate_singleton, splitAt_of_not_mem (h piece List.mem_cons_self)]
  | piece :: next :: pieces, _, h => by
    obtain ⟨hpiece, hrest⟩ := List.forall_mem_cons.mp h
    have ih := splitAt_intercalate (List.cons_ne_nil next pieces) hrest
    rw [List.intercalate_cons_cons, List.append_assoc, List.singleton_append, splitAt_append, ih,
      splitAt_of_not_mem hpiece]
    rfl

/-- Pieces with the separator between them make up the text that was cut. -/
theorem intercalate_splitAt (sep : Char) : ∀ s : List Char, [sep].intercalate (splitAt sep s) = s
  | [] => rfl
  | c :: s => by
    have ih := intercalate_splitAt sep s
    obtain ⟨piece, pieces, hpieces⟩ := exists_splitWhen (· == sep) s
    unfold splitAt at ih ⊢
    rw [hpieces] at ih
    by_cases hc : c = sep
    · simp [splitWhen, hc, hpieces, List.intercalate_cons_cons, ih]
    · have hcons : ∀ rest, [sep].intercalate ((c :: piece) :: rest) =
          c :: [sep].intercalate (piece :: rest) := by
        intro rest
        cases rest <;> simp [List.intercalate_cons_cons]
      simp [splitWhen, hc, hpieces, hcons, ih]

/-- A first piece that is not empty starts like the text. -/
theorem head?_of_splitAt {sep : Char} {s piece : List Char} {pieces : List (List Char)}
    (h : splitAt sep s = piece :: pieces) (hne : piece ≠ []) : piece.head? = s.head? := by
  cases s with
  | nil =>
    obtain ⟨rfl, _⟩ := List.cons.inj h
    exact absurd rfl hne
  | cons c s =>
    unfold splitAt splitWhen at h
    split at h
    · obtain ⟨rfl, _⟩ := List.cons.inj h
      exact absurd rfl hne
    · split at h
      · obtain ⟨rfl, _⟩ := List.cons.inj h
        rfl
      · obtain ⟨rfl, _⟩ := List.cons.inj h
        rfl

/-- A character of pieces put together stands in one of them, or separates them. -/
theorem mem_intercalate {sep c : Char} : ∀ {pieces : List (List Char)},
    c ∈ [sep].intercalate pieces → c = sep ∨ ∃ piece ∈ pieces, c ∈ piece
  | [], h => nomatch h
  | [piece], h => Or.inr ⟨piece, List.mem_cons_self, by rwa [List.intercalate_singleton] at h⟩
  | piece :: next :: pieces, h => by
    rw [List.intercalate_cons_cons, List.append_assoc, List.mem_append, List.mem_append,
      List.mem_singleton] at h
    rcases h with h | h | h
    · exact Or.inr ⟨piece, List.mem_cons_self, h⟩
    · exact Or.inl h
    · rcases mem_intercalate h with h | ⟨p, hp, hc⟩
      · exact Or.inl h
      · exact Or.inr ⟨p, List.mem_cons_of_mem _ hp, hc⟩

theorem mem_intercalate_of_mem {sep c : Char} {piece : List Char} : ∀ {pieces : List (List Char)},
    piece ∈ pieces → c ∈ piece → c ∈ [sep].intercalate pieces
  | [_], h, hc => by
    rwa [List.intercalate_singleton, ← List.mem_singleton.mp h]
  | first :: next :: pieces, h, hc => by
    rw [List.intercalate_cons_cons, List.mem_append]
    rcases List.mem_cons.mp h with rfl | h
    · exact Or.inl (List.mem_append_left _ hc)
    · exact Or.inr (mem_intercalate_of_mem h hc)

theorem replaceChar_of_not_mem {a b : Char} {s : List Char} (h : a ∉ s) :
    replaceChar a b s = s := by
  have hsame : ∀ c ∈ s, (if c = a then b else c) = id c := by
    intro c hc
    have hne : c ≠ a := by
      rintro rfl
      exact h hc
    exact if_neg hne
  rw [replaceChar, List.map_congr_left hsame, List.map_id]

theorem replaceChar_append (a b : Char) (s t : List Char) :
    replaceChar a b (s ++ t) = replaceChar a b s ++ replaceChar a b t := List.map_append

theorem replaceChar_intercalate {a b : Char} : ∀ {pieces : List (List Char)},
    (∀ piece ∈ pieces, a ∉ piece) →
      replaceChar a b ([a].intercalate pieces) = [b].intercalate pieces
  | [], _ => rfl
  | [piece], h => by
    rw [List.intercalate_singleton, List.intercalate_singleton,
      replaceChar_of_not_mem (h piece List.mem_cons_self)]
  | piece :: next :: pieces, h => by
    obtain ⟨hpiece, hrest⟩ := List.forall_mem_cons.mp h
    have ih := replaceChar_intercalate (b := b) hrest
    have hsep : replaceChar a b [a] = [b] := by simp [replaceChar]
    rw [List.intercalate_cons_cons, List.intercalate_cons_cons, replaceChar_append,
      replaceChar_append, replaceChar_of_not_mem hpiece, hsep, ih]

/-! ## Trimming -/

theorem not_isBlank_of_head?_trimLeft {s : List Char} {c : Char}
    (h : (trimLeft s).head? = some c) : ¬ isBlank c := by
  have hhead := List.head?_dropWhile_not isBlank s
  rw [trimLeft] at h
  rw [h] at hhead
  simpa using hhead

/-- Cutting blanks off the end leaves what a text starts with. -/
theorem trim_prefix (s : List Char) : trim s <+: trimLeft s := by
  have hend : trimLeft (trimLeft s).reverse <:+ (trimLeft s).reverse := List.dropWhile_suffix _
  rw [trim, ← List.reverse_suffix, List.reverse_reverse]
  exact hend

theorem not_isBlank_of_head?_trim {s : List Char} {c : Char} (h : (trim s).head? = some c) :
    ¬ isBlank c := by
  obtain ⟨rest, hrest⟩ := trim_prefix s
  refine not_isBlank_of_head?_trimLeft (s := s) ?_
  rw [← hrest, List.head?_append, h]
  rfl

theorem trimLeft_of_head? {s : List Char} (h : ∀ c, s.head? = some c → ¬ isBlank c) :
    trimLeft s = s := by
  cases s with
  | nil => rfl
  | cons c s => exact List.dropWhile_cons_of_neg (h c rfl)

theorem trimLeft_trimLeft (s : List Char) : trimLeft (trimLeft s) = trimLeft s :=
  trimLeft_of_head? fun _ => not_isBlank_of_head?_trimLeft

/-- What is trimmed has no blanks left to lose. -/
theorem trim_trim (s : List Char) : trim (trim s) = trim s := by
  have hstart : trimLeft (trim s) = trim s :=
    trimLeft_of_head? fun _ => not_isBlank_of_head?_trim
  calc trim (trim s) = (trimLeft (trim s).reverse).reverse := by rw [trim, hstart]
    _ = (trimLeft (trimLeft (trimLeft s).reverse)).reverse := by rw [trim, List.reverse_reverse]
    _ = trim s := by rw [trimLeft_trimLeft, trim]

/-! ## Lines -/

/-- The text has no line ending in it. -/
def OneLine (s : List Char) : Prop := ∀ c ∈ s, ¬ isLineEnd c

instance (s : List Char) : Decidable (OneLine s) :=
  decidable_of_iff (s.all fun c => !isLineEnd c) (by simp [OneLine])

/-- What ends a line: one character, or a carriage return with a line feed. -/
inductive LineEnding : List Char → Prop where
  | single {c : Char} : isLineEnd c → LineEnding [c]
  | pair : LineEnding ['\r', '\n']

/-- The text of the lines, each with the ending behind it; the last may lack it. -/
inductive Lined (ending : List Char) : List (List Char) → List Char → Prop where
  | nil : Lined ending [] []
  | last {line : List Char} : line ≠ [] → Lined ending [line] line
  | cons {line s : List Char} {ls : List (List Char)} :
      Lined ending ls s → Lined ending (line :: ls) (line ++ (ending ++ s))

theorem lined_flatMap (ending : List Char) : ∀ ls : List (List Char),
    Lined ending ls (ls.flatMap fun line => line ++ ending)
  | [] => .nil
  | line :: ls => by
    rw [List.flatMap_cons, List.append_assoc]
    exact .cons (lined_flatMap ending ls)

theorem oneLine_append {s t : List Char} : OneLine (s ++ t) ↔ OneLine s ∧ OneLine t :=
  List.forall_mem_append

theorem Token.oneLine {word : List Char} (h : Token word) : OneLine word :=
  fun c hc hend => h.solid c hc (isBlank_of_isLineEnd hend)

theorem lines_cons_of_not {c : Char} (h : ¬ isLineEnd c) (s : List Char) :
    lines (c :: s) = match lines s with
      | [] => [[c]]
      | line :: rest => (c :: line) :: rest := by
  have hreturn : c ≠ '\r' := fun e => h (e ▸ rfl)
  rw [lines]
  · exact if_neg h
  · intro rest hc
    exact absurd hc hreturn

/-- A single character ends a line, unless it is the first of the two that end one together. -/
theorem lines_cons_of_isLineEnd {c : Char} (h : isLineEnd c) {s : List Char}
    (hpair : c = '\r' → s.head? ≠ some '\n') : lines (c :: s) = [] :: lines s := by
  rw [lines, if_pos h]
  intro rest hc hs
  exact hpair hc (by rw [hs]; rfl)

theorem lines_line_append {s : List Char} {ls : List (List Char)} (h : lines s = [] :: ls) :
    ∀ {line : List Char}, OneLine line → lines (line ++ s) = line :: ls
  | [], _ => h
  | c :: line, hline => by
    obtain ⟨hc, hrest⟩ := List.forall_mem_cons.mp hline
    rw [List.cons_append, lines_cons_of_not hc, lines_line_append h hrest]

theorem lines_of_oneLine : ∀ {line : List Char}, OneLine line → line ≠ [] → lines line = [line]
  | [], _, hne => absurd rfl hne
  | [c], hline, _ => by rw [lines_cons_of_not (hline c List.mem_cons_self)]; rfl
  | c :: d :: line, hline, _ => by
    obtain ⟨hc, hrest⟩ := List.forall_mem_cons.mp hline
    rw [lines_cons_of_not hc, lines_of_oneLine hrest (List.cons_ne_nil d line)]

theorem Lined.head?_ne_newline {ls : List (List Char)} {s : List Char}
    (h : Lined ['\r'] ls s) (hls : ∀ line ∈ ls, OneLine line) : s.head? ≠ some '\n' := by
  have hfirst : ∀ {line : List Char}, OneLine line → line.head? ≠ some '\n' := by
    intro line hline hhead
    exact hline '\n' (List.mem_of_mem_head? hhead) rfl
  cases h with
  | nil => simp
  | last _ => exact hfirst (hls _ List.mem_cons_self)
  | @cons line s ls h =>
    cases line with
    | nil => simp
    | cons c line =>
      have hline : (c :: line).head? ≠ some '\n' := hfirst (hls _ List.mem_cons_self)
      simpa using hline

theorem lines_of_lined {ending s : List Char} {ls : List (List Char)} (hend : LineEnding ending)
    (hls : ∀ line ∈ ls, OneLine line) (h : Lined ending ls s) : lines s = ls := by
  induction h with
  | nil => rfl
  | last hne => exact lines_of_oneLine (hls _ List.mem_cons_self) hne
  | @cons line s ls h ih =>
    obtain ⟨hline, hrest⟩ := List.forall_mem_cons.mp hls
    have hbreak : lines (ending ++ s) = [] :: lines s := by
      cases hend with
      | single hc =>
        refine lines_cons_of_isLineEnd hc ?_
        rintro rfl
        exact h.head?_ne_newline hrest
      | pair => rfl
    rw [lines_line_append hbreak hline, ih hrest]

/-- The text of the lines, each with an ending of its own behind it; the last may lack it. -/
inductive Separated : List (List Char) → List Char → Prop where
  | nil : Separated [] []
  | last {line : List Char} : Separated [line] line
  | cons {line ending s : List Char} {ls : List (List Char)} :
      LineEnding ending → Separated ls s → Separated (line :: ls) (line ++ (ending ++ s))

/-- A carriage return may end a line together with what follows it. Then an empty line is missed,
and nothing else. -/
theorem lines_ending_append {ending : List Char} (h : LineEnding ending) (s : List Char) :
    lines (ending ++ s) = [] :: lines s ∨ ∃ ls, lines (ending ++ s) = [] :: ls ∧
      lines s = [] :: ls := by
  cases h with
  | pair => exact Or.inl rfl
  | @single c hc =>
    by_cases hpair : c = '\r' ∧ s.head? = some '\n'
    · obtain ⟨rfl, hs⟩ := hpair
      obtain ⟨t, rfl⟩ := List.head?_eq_some_iff.mp hs
      refine Or.inr ⟨lines t, rfl, ?_⟩
      exact lines_cons_of_isLineEnd (by decide) (fun e => absurd e (by decide))
    · exact Or.inl (lines_cons_of_isLineEnd hc fun hreturn hs => hpair ⟨hreturn, hs⟩)

/-- What is read off the lines one by one does not depend on how they end, if nothing is read off
an empty line. -/
theorem filterMap_lines_of_separated {α : Type} {read : List Char → Option α}
    (hread : read [] = none) {s : List Char} {ls : List (List Char)} (h : Separated ls s)
    (hls : ∀ line ∈ ls, OneLine line) : (lines s).filterMap read = ls.filterMap read := by
  induction h with
  | nil => rfl
  | @last line =>
    cases line with
    | nil => simp [lines, hread]
    | cons c line => rw [lines_of_oneLine (hls _ List.mem_cons_self) (List.cons_ne_nil c line)]
  | @cons line ending s ls hend _ ih =>
    obtain ⟨hline, hrest⟩ := List.forall_mem_cons.mp hls
    rw [List.filterMap_cons, ← ih hrest]
    rcases lines_ending_append hend s with hs | ⟨more, hs, hmore⟩
    · rw [lines_line_append hs hline, List.filterMap_cons]
    · rw [lines_line_append hs hline, List.filterMap_cons, hmore, List.filterMap_cons_none hread]

end DependencyAudit.Text
