import DependencyAudit.Text.Quoted

/-!
The numbers of TOML 1.0. A number is only delimited: the reader takes the longest one from the
front of a text and gives back the rest. Only decimal integers have a limit, on their digits.
-/

namespace DependencyAudit.Toml

/-- What stands behind digits of which each but the first may follow a low line. -/
def behindDigits (isDigit : Char → Bool) : List Char → List Char
  | [] => []
  | '_' :: c :: rest => if isDigit c then behindDigits isDigit rest else '_' :: c :: rest
  | c :: rest => if isDigit c then behindDigits isDigit rest else c :: rest

/-- The same, where at least one digit has to stand. -/
def behindSomeDigits? (isDigit : Char → Bool) : List Char → Option (List Char)
  | [] => none
  | c :: rest => if isDigit c then some (behindDigits isDigit rest) else none

def isHexDigit (c : Char) : Bool := (Text.hexValue? c).isSome

def isOctalDigit (c : Char) : Bool := '0' ≤ c && c ≤ '7'

def isBinaryDigit (c : Char) : Bool := c == '0' || c == '1'

/-- What stands behind a number to a base other than ten. -/
def behindBasedNumber? : List Char → Option (List Char)
  | '0' :: 'x' :: rest => behindSomeDigits? isHexDigit rest
  | '0' :: 'o' :: rest => behindSomeDigits? isOctalDigit rest
  | '0' :: 'b' :: rest => behindSomeDigits? isBinaryDigit rest
  | _ => none

def skipSign : List Char → List Char
  | '+' :: rest => rest
  | '-' :: rest => rest
  | s => s

def behindWhole? : List Char → Option (List Char)
  | '0' :: rest => some rest
  | s => behindSomeDigits? Char.isDigit s

def behindFraction : List Char → List Char
  | '.' :: rest => (behindSomeDigits? Char.isDigit rest).getD ('.' :: rest)
  | s => s

def behindExponent : List Char → List Char
  | 'e' :: rest => (behindSomeDigits? Char.isDigit (skipSign rest)).getD ('e' :: rest)
  | 'E' :: rest => (behindSomeDigits? Char.isDigit (skipSign rest)).getD ('E' :: rest)
  | s => s

/-- What stands behind infinity or behind what is no number. -/
def behindSpecial? : List Char → Option (List Char)
  | 'i' :: 'n' :: 'f' :: rest => some rest
  | 'n' :: 'a' :: 'n' :: rest => some rest
  | _ => none

def behindNumber? (s : List Char) : Option (List Char) :=
  match behindBasedNumber? s with
  | some rest => some rest
  | none =>
    match behindWhole? (skipSign s) with
    | some rest => some (behindExponent (behindFraction rest))
    | none => behindSpecial? (skipSign s)

/-- The greatest number of digits that a decimal integer may have, as the reader in use has it. -/
def maxDigits : Nat := 4300

/-- The number of digits of a decimal integer, and zero for every other number. -/
def integerDigits (written : List Char) : Nat :=
  if (skipSign written).all fun c => c.isDigit || c == '_' then written.countP Char.isDigit else 0

end DependencyAudit.Toml
