import DependencyAudit.Text.Characters

/-!
Cutting text into pieces and into lines. A text is handled as its list of characters; `splitWhen`
cuts at every character of a class and keeps empty pieces, so a text without such a character is
its own single piece.

A line ends at a line feed, a carriage return (both together end one line), a vertical tab, a form
feed, an information separator U+001C to U+001E, a next-line character, or a line or paragraph
separator. A text that ends with such a character has no further empty line. `unifyNewlines` is the
milder reading that files get: only carriage returns are touched, and each becomes a line feed
unless it already stands before one.
-/

namespace DependencyAudit.Text

/-- The pieces between the characters that satisfy `p`, empty ones included. -/
def splitWhen (p : Char → Bool) : List Char → List (List Char)
  | [] => [[]]
  | c :: s =>
    if p c then [] :: splitWhen p s
    else match splitWhen p s with
      | [] => [[c]]
      | piece :: pieces => (c :: piece) :: pieces

/-- The pieces between the occurrences of one character. -/
def splitAt (sep : Char) (s : List Char) : List (List Char) := splitWhen (· == sep) s

/-- The maximal runs of characters that are not blank. -/
def words (s : List Char) : List (List Char) := (splitWhen isBlank s).filter (! ·.isEmpty)

/-- What follows `start`, if the text begins with it. -/
def after? : (start : List Char) → (s : List Char) → Option (List Char)
  | [], s => some s
  | _ :: _, [] => none
  | a :: start, c :: s => if a = c then after? start s else none

/-- What stands before `ending`, if the text ends with it. -/
def before? (ending s : List Char) : Option (List Char) :=
  (after? ending.reverse s.reverse).map List.reverse

/-- The text with every `a` written as `b`. -/
def replaceChar (a b : Char) (s : List Char) : List Char := s.map fun c => if c = a then b else c

/-! ## Lines -/

def isLineEnd (c : Char) : Bool :=
  let n := c.toNat
  (0x0A ≤ n && n ≤ 0x0D) || (0x1C ≤ n && n ≤ 0x1E) || n == 0x85 || n == 0x2028 || n == 0x2029

/-- The lines of a text, without what ends them. -/
def lines : List Char → List (List Char)
  | [] => []
  | '\r' :: '\n' :: s => [] :: lines s
  | c :: s =>
    if isLineEnd c then [] :: lines s
    else match lines s with
      | [] => [[c]]
      | line :: rest => (c :: line) :: rest

/-- The text with every carriage return, alone or before a line feed, turned into a line feed. -/
def unifyNewlines : List Char → List Char
  | [] => []
  | '\r' :: '\n' :: s => '\n' :: unifyNewlines s
  | c :: s => (if c = '\r' then '\n' else c) :: unifyNewlines s

end DependencyAudit.Text
