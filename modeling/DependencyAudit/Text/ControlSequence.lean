/-!
Control sequences. A text can tell a terminal how to show it, by an escape character and an opening
bracket, parameters, intermediates, and one final character. What is no terminal gets the text
without them.
-/

namespace DependencyAudit.Text

/-- Whether a character can be one of the parameters of a control sequence. -/
def isParameter (c : Char) : Bool := '0' ≤ c && c ≤ '?'

/-- Whether a character can stand between the parameters and the end of a control sequence. -/
def isIntermediate (c : Char) : Bool := ' ' ≤ c && c ≤ '/'

/-- Whether a character can end a control sequence. -/
def isFinal (c : Char) : Bool := '@' ≤ c && c ≤ '~'

/-- What stands behind the final character of a control sequence, if it comes next. -/
def behindFinal? : List Char → Option (List Char)
  | [] => none
  | c :: rest => if isFinal c then some rest else none

/-- What stands behind a control sequence, if one begins. -/
def behindControlSequence? : List Char → Option (List Char)
  | '\x1b' :: '[' :: rest => behindFinal? ((rest.dropWhile isParameter).dropWhile isIntermediate)
  | _ => none

/-- The final character is taken away. -/
theorem length_lt_of_behindFinal? {s rest : List Char} (h : behindFinal? s = some rest) :
    rest.length < s.length := by
  cases s with
  | nil => simp [behindFinal?] at h
  | cons c s =>
    obtain ⟨-, rfl⟩ := Option.ite_some_none_eq_some.1 h
    simp

/-- A control sequence takes something away from the text. -/
theorem length_lt_of_behindControlSequence? {s rest : List Char}
    (h : behindControlSequence? s = some rest) : rest.length < s.length := by
  unfold behindControlSequence? at h
  split at h
  · next tail =>
    calc rest.length
        < ((tail.dropWhile isParameter).dropWhile isIntermediate).length :=
          length_lt_of_behindFinal? h
      _ ≤ (tail.dropWhile isParameter).length := (List.dropWhile_sublist _).length_le
      _ ≤ tail.length := (List.dropWhile_sublist _).length_le
      _ ≤ _ := by simp only [List.length_cons]; omega
  · simp at h

/-- The text without its control sequences. What comes together where one is taken away is not
looked at again. -/
def withoutControlSequences : List Char → List Char
  | [] => []
  | c :: s =>
    match _h : behindControlSequence? (c :: s) with
    | some rest => withoutControlSequences rest
    | none => c :: withoutControlSequences s
termination_by s => s.length
decreasing_by
  · exact length_lt_of_behindControlSequence? _h
  · simp

end DependencyAudit.Text
