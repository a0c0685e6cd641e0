import DependencyAudit.Artifact
import Mathlib.Algebra.Group.Nat.Defs

/-!
Descriptors tell artifacts apart. Quoted text can be read back whatever stands behind it: the
first character says which quote was chosen, no written character starts with that quote, and
`readOne` gets every written character back. So each field of a descriptor ends where its quote
ends, and two descriptors that agree agree field by field.

Main statements: `quote_append_inj` for quoted text, `Artifact.descriptor_append_inj` for artifacts.
-/

namespace DependencyAudit.Text

/-! ## Reading hexadecimal digits back -/

/-- The number that hexadecimal digits stand for. -/
def codeOf (digits : List Char) : Nat :=
  digits.foldl (fun n c => n * 16 + (hexValue? c).getD 0) 0

theorem length_hex : ∀ w n, (hex w n).length = w
  | 0, _ => rfl
  | w + 1, n => by simp [hex, length_hex w]

theorem hexValue?_hexDigit {n : Nat} (h : n < 16) : hexValue? (hexDigit n) = some n := by
  have all : ∀ m : Fin 16, hexValue? (hexDigit m) = some m.val := by decide
  exact all ⟨n, h⟩

theorem codeOf_hex : ∀ w n, n < 16 ^ w → codeOf (hex w n) = n
  | 0, n, h => by
    have : n = 0 := by simpa using h
    simp [hex, codeOf, this]
  | w + 1, n, h => by
    have hdiv : n / 16 < 16 ^ w := by
      rw [Nat.pow_succ] at h
      exact Nat.div_lt_of_lt_mul (by omega)
    have ih := codeOf_hex w (n / 16) hdiv
    have hdigit := hexValue?_hexDigit (Nat.mod_lt n (by decide : 0 < 16))
    simp only [codeOf, hex, List.foldl_append, List.foldl_cons, List.foldl_nil] at ih ⊢
    rw [ih, hdigit, Option.getD_some]
    omega

/-! ## Reading one written character back -/

/-- The character that an escape with `width` digits stands for, and what follows. -/
def readCode (width : Nat) (s : List Char) : Char × List Char :=
  (Char.ofNat (codeOf (s.take width)), s.drop width)

/-- Reads one written character, and gives what follows. -/
def readOne : List Char → Option (Char × List Char)
  | '\\' :: 'n' :: s => some ('\n', s)
  | '\\' :: 'r' :: s => some ('\r', s)
  | '\\' :: 't' :: s => some ('\t', s)
  | '\\' :: 'x' :: s => some (readCode 2 s)
  | '\\' :: 'u' :: s => some (readCode 4 s)
  | '\\' :: 'U' :: s => some (readCode 8 s)
  | '\\' :: c :: s => some (c, s)
  | c :: s => some (c, s)
  | [] => none

theorem readCode_hex {w : Nat} {c : Char} (h : c.toNat < 16 ^ w) (rest : List Char) :
    readCode w (hex w c.toNat ++ rest) = (c, rest) := by
  have hlen := length_hex w c.toNat
  simp only [readCode, List.take_left' hlen, List.drop_left' hlen, codeOf_hex w _ h,
    Char.ofNat_toNat]

theorem readOne_of_ne {c : Char} (h : c ≠ '\\') (s : List Char) :
    readOne (c :: s) = some (c, s) := by
  unfold readOne
  split <;> simp_all

theorem toNat_lt (c : Char) : c.toNat < 16 ^ 8 := by
  have := c.valid
  simp only [UInt32.isValidChar, Nat.isValidChar] at this
  simp only [Char.toNat]
  omega

/-- A quote is one of two characters, none of which names an escape. -/
def IsQuote (q : Char) : Prop := q = '\'' ∨ q = '"'

theorem isQuote_quoteFor (s : List Char) : IsQuote (quoteFor s) := by
  unfold quoteFor IsQuote
  split <;> simp

theorem readOne_escape {q : Char} (hq : IsQuote q) (c : Char) (rest : List Char) :
    readOne (escape q c ++ rest) = some (c, rest) := by
  unfold escape
  split
  · rename_i h
    -- a backslash, or the quote itself, comes behind a backslash
    rcases h with rfl | rfl
    · rfl
    · rcases hq with rfl | rfl <;> rfl
  · rename_i h
    have hback : c ≠ '\\' := fun e => h (Or.inl e)
    split
    · subst c; rfl
    · split
      · subst c; rfl
      · split
        · subst c; rfl
        · split
          · -- a printable character stands for itself
            exact readOne_of_ne hback rest
          · -- any other comes in two, four or eight digits, as many as its number needs
            split
            · rename_i hlt
              exact congrArg some (readCode_hex hlt rest)
            · split
              · rename_i hlt
                exact congrArg some (readCode_hex hlt rest)
              · exact congrArg some (readCode_hex (toNat_lt c) rest)

/-- What is written for a character never starts with the quote itself. -/
theorem escape_ne_quote {q : Char} (hq : IsQuote q) (c : Char) (s t : List Char) :
    escape q c ++ s ≠ q :: t := by
  have hback : '\\' ≠ q := by rcases hq with rfl | rfl <;> decide
  intro h
  unfold escape at h
  -- it starts with a backslash, or is a character that is not the quote
  repeat' split at h
  all_goals simp_all

/-! ## Quoted text ends at its quote -/

theorem flatMap_escape_append_inj {q : Char} (hq : IsQuote q) :
    ∀ (s t : List Char) {r r' : List Char},
      s.flatMap (escape q) ++ q :: r = t.flatMap (escape q) ++ q :: r' → s = t ∧ r = r'
  | [], [], _, _, h => ⟨rfl, (List.cons.inj h).2⟩
  | [], d :: t, _, _, h => by
    rw [List.flatMap_cons, List.append_assoc] at h
    exact absurd h.symm (escape_ne_quote hq d _ _)
  | c :: s, [], _, _, h => by
    rw [List.flatMap_cons, List.append_assoc] at h
    exact absurd h (escape_ne_quote hq c _ _)
  | c :: s, d :: t, r, r', h => by
    rw [List.flatMap_cons, List.flatMap_cons, List.append_assoc, List.append_assoc] at h
    have hread := congrArg readOne h
    rw [readOne_escape hq, readOne_escape hq, Option.some.injEq, Prod.mk.injEq] at hread
    obtain ⟨rfl, hrest⟩ := hread
    obtain ⟨rfl, hr⟩ := flatMap_escape_append_inj hq s t hrest
    exact ⟨rfl, hr⟩

theorem quote_append_inj {s t r r' : List Char} (h : quote s ++ r = quote t ++ r') :
    s = t ∧ r = r' := by
  simp only [quote, List.cons_append, List.append_assoc, List.nil_append] at h
  -- the first characters agree, so both texts chose the same quote
  obtain ⟨hq, hrest⟩ := List.cons.inj h
  rw [hq] at hrest
  exact flatMap_escape_append_inj (isQuote_quoteFor t) s t hrest

end DependencyAudit.Text

namespace DependencyAudit

open Text

theorem toList_quoted (s : String) : (quoted s).toList = quote s.toList := String.toList_ofList

theorem quoted_append_inj {s t : String} {r r' : List Char}
    (h : (quoted s).toList ++ r = (quoted t).toList ++ r') : s = t ∧ r = r' := by
  rw [toList_quoted, toList_quoted] at h
  obtain ⟨hs, hr⟩ := quote_append_inj h
  exact ⟨String.toList_injective hs, hr⟩

/-! ## Coordinates -/

namespace Coordinate

theorem descriptor_eq (c : Coordinate) :
    c.descriptor =
      "ModuleCoordinate(group=" ++ quoted c.group ++ ", name=" ++ quoted c.name
        ++ ", version=" ++ quoted c.version ++ ")" := rfl

theorem descriptor_append_inj {c d : Coordinate} {r r' : List Char}
    (h : c.descriptor.toList ++ r = d.descriptor.toList ++ r') : c = d ∧ r = r' := by
  obtain ⟨group, name, version⟩ := c
  obtain ⟨group', name', version'⟩ := d
  simp only [descriptor_eq, String.toList_append, List.append_assoc] at h
  obtain ⟨hgroup, h⟩ := quoted_append_inj (List.append_cancel_left h)
  obtain ⟨hname, h⟩ := quoted_append_inj (List.append_cancel_left h)
  obtain ⟨hversion, h⟩ := quoted_append_inj (List.append_cancel_left h)
  exact ⟨by rw [hgroup, hname, hversion], List.append_cancel_left h⟩

end Coordinate

/-! ## Artifacts -/

namespace Artifact

theorem descriptor_external (c : Coordinate) (k : Option String) :
    (external c k).descriptor =
      "ExternalArtifact(coordinate=" ++ c.descriptor ++ ", classifier="
        ++ classifierDescriptor k ++ ")" := rfl

theorem descriptor_project (path : String) (c : Coordinate) :
    (project path c).descriptor =
      "ProjectArtifact(project_path=" ++ quoted path ++ ", coordinate=" ++ c.descriptor
        ++ ")" := rfl

theorem toList_quoted_ne_none (s : String) (r r' : List Char) :
    (quoted s).toList ++ r ≠ "None".toList ++ r' := by
  intro h
  rw [toList_quoted] at h
  have hhead : quoteFor s.toList = 'N' := (List.cons.inj h).1
  rcases isQuote_quoteFor s.toList with hq | hq
  · rw [hq] at hhead
    exact absurd hhead (by decide)
  · rw [hq] at hhead
    exact absurd hhead (by decide)

theorem classifierDescriptor_append_inj {k k' : Option String} {r r' : List Char}
    (h : (classifierDescriptor k).toList ++ r = (classifierDescriptor k').toList ++ r') :
    k = k' ∧ r = r' := by
  cases k with
  | none =>
    cases k' with
    | none => exact ⟨rfl, List.append_cancel_left h⟩
    | some t => exact absurd h.symm (toList_quoted_ne_none t r' r)
  | some s =>
    cases k' with
    | none => exact absurd h (toList_quoted_ne_none s r r')
    | some t =>
      obtain ⟨hs, hr⟩ := quoted_append_inj h
      exact ⟨congrArg some hs, hr⟩

/-- Descriptors of an external and of a project's artifact differ in their first character. -/
theorem descriptor_external_ne_project (c d : Coordinate) (k : Option String) (path : String)
    (r r' : List Char) :
    (external c k).descriptor.toList ++ r ≠ (project path d).descriptor.toList ++ r' := by
  intro h
  simp only [descriptor_external, descriptor_project, String.toList_append, List.append_assoc]
    at h
  have hfirst : 'E' = 'P' := (List.cons.inj h).1
  exact absurd hfirst (by decide)

/-- A descriptor shows where it ends, whatever stands behind it. -/
theorem descriptor_append_inj {a b : Artifact} {r r' : List Char}
    (h : a.descriptor.toList ++ r = b.descriptor.toList ++ r') : a = b ∧ r = r' := by
  cases a with
  | external c k =>
    cases b with
    | external d k' =>
      simp only [descriptor_external, String.toList_append, List.append_assoc] at h
      obtain ⟨hc, h⟩ := Coordinate.descriptor_append_inj (List.append_cancel_left h)
      obtain ⟨hk, h⟩ := classifierDescriptor_append_inj (List.append_cancel_left h)
      exact ⟨by rw [hc, hk], List.append_cancel_left h⟩
    | project path d => exact absurd h (descriptor_external_ne_project c d k path r r')
  | project path c =>
    cases b with
    | external d k => exact absurd h.symm (descriptor_external_ne_project d c k path r' r)
    | project path' d =>
      simp only [descriptor_project, String.toList_append, List.append_assoc] at h
      obtain ⟨hpath, h⟩ := quoted_append_inj (List.append_cancel_left h)
      obtain ⟨hc, h⟩ := Coordinate.descriptor_append_inj (List.append_cancel_left h)
      exact ⟨by rw [hpath, hc], List.append_cancel_left h⟩

theorem descriptor_inj {a b : Artifact} (h : a.descriptor = b.descriptor) : a = b :=
  (descriptor_append_inj (congrArg (fun s => s.toList ++ []) h)).1

/-- Between bare quotes the fields of these two would read alike. -/
example : (external ⟨"g", "a', version='1", "2"⟩ none).descriptor ≠
    (external ⟨"g", "a", "1', version='2"⟩ none).descriptor := by
  decide

/-- No descriptor is the beginning of another one. -/
theorem descriptor_prefix_iff {a b : Artifact} :
    a.descriptor.toList <+: b.descriptor.toList ↔ a = b := by
  refine ⟨?_, ?_⟩
  · intro hprefix
    obtain ⟨rest, h⟩ := hprefix
    rw [← List.append_nil b.descriptor.toList] at h
    exact (descriptor_append_inj h).1
  · intro h
    exact h ▸ List.prefix_rfl

end Artifact

end DependencyAudit
