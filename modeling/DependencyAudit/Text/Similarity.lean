import DependencyAudit.Ascending

/-!
How alike two texts are. Two texts agree in their longest common stretch, and further in what
stands before it and in what stands behind it. Their likeness is twice the number of characters
in which they agree, over the number of characters of both.
-/

namespace DependencyAudit.Text

/-- A stretch that two texts have in common: where it starts in each, and its length. -/
structure Stretch where
  left : Nat
  right : Nat
  length : Nat

namespace Stretch

/-- The longer of two stretches; of equally long ones the first. -/
def longer (s t : Stretch) : Stretch := if s.length < t.length then t else s

def commonStart : List Char → List Char → Nat
  | a :: s, b :: t => if a = b then commonStart s t + 1 else 0
  | _, _ => 0

/-- The longest common stretch that starts at a given place on the left. The text `t` stands at
place `j` on the right. -/
def longestFrom (i : Nat) (s : List Char) (j : Nat) : List Char → Stretch
  | [] => ⟨i, j, 0⟩
  | b :: t => longer ⟨i, j, commonStart s (b :: t)⟩ (longestFrom i s (j + 1) t)

/-- The longest common stretch, of equally long ones the first. The left text stands at place
`i`. -/
def longest (i : Nat) : List Char → List Char → Stretch
  | [], _ => ⟨i, 0, 0⟩
  | a :: s, t => longer (longestFrom i (a :: s) 0 t) (longest (i + 1) s t)

end Stretch

/-- The number of characters in which two texts agree. The texts before and behind a stretch are
shorter than the whole, so `fuel` need not exceed the length of the left text. -/
def agreementWithin : (fuel : Nat) → List Char → List Char → Nat
  | 0, _, _ => 0
  | fuel + 1, s, t =>
    let m := Stretch.longest 0 s t
    if m.length = 0 then 0
    else
      agreementWithin fuel (s.take m.left) (t.take m.right) + m.length
        + agreementWithin fuel (s.drop (m.left + m.length)) (t.drop (m.right + m.length))

/-- The number of characters in which two texts agree. -/
def agreement (s t : List Char) : Nat := agreementWithin s.length s t

/-- A text that may have been meant: the characters in which it agrees with what was written,
and the number of characters of both. -/
structure Candidate where
  text : String
  agreement : Nat
  total : Nat

namespace Candidate

/-- A text beside what was written. -/
def of (written text : String) : Candidate :=
  ⟨text, Text.agreement text.toList written.toList, text.length + written.length⟩

/-- Whether the likeness is at least three fifths. -/
def isClose (c : Candidate) : Bool := 3 * c.total ≤ 10 * c.agreement

/-- Whether a candidate is more alike than another; of equally alike ones the later text. -/
def isBetter (c d : Candidate) : Bool :=
  d.agreement * c.total < c.agreement * d.total
    || (c.agreement * d.total = d.agreement * c.total && d.text < c.text)

end Candidate

/-- At most three of the texts that are close to what was written, the closest first. -/
def closest (written : String) (texts : List String) : List String :=
  ((Ascending.sort Candidate.isBetter
    ((texts.map (Candidate.of written)).filter Candidate.isClose)).map Candidate.text).take 3

end DependencyAudit.Text
