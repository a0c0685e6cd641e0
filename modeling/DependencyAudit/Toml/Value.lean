import DependencyAudit.Toml.Moment
import DependencyAudit.Toml.Number
import DependencyAudit.Toml.Quoted
import DependencyAudit.Toml.Table

/-!
The keys and values of TOML 1.0. Each reader takes what it reads from the front of a text and
gives back the rest. Apart from being no TOML at all, a document can pass a limit: an integer has
too many digits, or values stand inside one another too deeply, where a list takes two steps and an
inline table three. What is met first on the way from the front to the back is the trouble of the
whole document.

Neither limit is part of the format, and both are assumptions here: `maxDigits` is the one of the
reader in use, and `maxSteps` the room that is left on its stack when the program is started from
the command line. Started from deeper within another program, it would have less.
-/

namespace DependencyAudit.Toml

/-- Why a document cannot be read. -/
inductive Trouble where
  | malformed
  | tooManyDigits (count : Nat)
  | tooDeep
  deriving DecidableEq

/-- What a reader without limits finds; where it finds nothing, the document is malformed. -/
def orMalformed {α : Type} : Option α → Except Trouble α
  | none => .error .malformed
  | some a => .ok a

/-! ## Keys and values -/

def isBareKey (c : Char) : Bool := c.isAlphanum || c == '-' || c == '_'

def keyPart? : List Char → Option (String × List Char)
  | [] => none
  | '"' :: rest => (basicString? rest).map fun r => (String.ofList r.1, r.2)
  | '\'' :: rest => (literalString? rest).map fun r => (String.ofList r.1, r.2)
  | c :: rest =>
    if isBareKey c then
      some (String.ofList (c :: rest.takeWhile isBareKey), rest.dropWhile isBareKey)
    else none

/-- The parts of a key behind its first, with the white space that follows. Each takes at least
two characters, so `fuel` need not exceed the length of the text. -/
def keyRest? : (fuel : Nat) → List Char → Option (Key × List Char)
  | 0, s => some ([], s)
  | fuel + 1, '.' :: s => do
    let (part, s) ← keyPart? (skipSpace s)
    let (parts, s) ← keyRest? fuel (skipSpace s)
    return (part :: parts, s)
  | _ + 1, s => some ([], s)

/-- A key, with the white space that follows. -/
def key? (s : List Char) : Option (Key × List Char) := do
  let (part, rest) ← keyPart? s
  let (parts, rest) ← keyRest? s.length (skipSpace rest)
  return (part :: parts, rest)

/-- What stands behind a comment, if one begins, up to the end of the line. -/
def skipComment? : List Char → Option (List Char)
  | '#' :: rest =>
    if (rest.takeWhile (· ≠ '\n')).any isControl then none else some (rest.dropWhile (· ≠ '\n'))
  | s => some s

/-- What stands behind white space, line ends and comments. -/
def skipBetween? : (fuel : Nat) → List Char → Option (List Char)
  | 0, s => some s
  | fuel + 1, s =>
    match s.dropWhile isSpaceOrLineEnd with
    | '#' :: rest => skipComment? ('#' :: rest) >>= skipBetween? fuel
    | rest => some rest

/-- Adds a field to an inline table, in which the keys in `final` hold final values. -/
def addInline? (final : List Key) (key : Key) (value : Data) (fields : List (String × Data)) :
    Option (List (String × Data)) :=
  match key.getLast? with
  | none => none
  | some name =>
    if covers final key then none
    else changeAt? false (addField? name value) key.dropLast fields

def readNumber (s : List Char) : Except Trouble (Data × List Char) :=
  match behindNumber? s with
  | none => .error .malformed
  | some rest =>
    let written := s.take (s.length - rest.length)
    if maxDigits < integerDigits written then .error (.tooManyDigits (integerDigits written))
    else .ok (.number (String.ofList written), rest)

def listSteps : Nat := 2

def tableSteps : Nat := 3

/-- The greatest number of steps that lead from a key/value pair into lists and inline tables, as
the stack is assumed to have room for them. -/
def maxSteps : Nat := 986

mutual

/-- A value that at most `room` steps may lead into. Two calls lead into a list or table and one to
its next element, each past a character at least, so `fuel` need not exceed twice the length of
the text. -/
def readValue : (fuel room : Nat) → List Char → Except Trouble (Data × List Char)
  | 0, _, _ => .error .malformed
  | fuel + 1, room, s =>
    match s with
    | [] => .error .malformed
    | '"' :: _ => orMalformed ((string? s).map fun r => (.text (String.ofList r.1), r.2))
    | '\'' :: _ => orMalformed ((string? s).map fun r => (.text (String.ofList r.1), r.2))
    | 't' :: 'r' :: 'u' :: 'e' :: rest => .ok (.flag true, rest)
    | 'f' :: 'a' :: 'l' :: 's' :: 'e' :: rest => .ok (.flag false, rest)
    | '[' :: rest =>
      if room < listSteps then .error .tooDeep
      else do
        let s ← orMalformed (skipBetween? rest.length rest)
        readItems fuel (room - listSteps) [] s
    | '\x7b' :: rest =>
      if room < tableSteps then .error .tooDeep
      else
        match skipSpace rest with
        | '\x7d' :: rest => .ok (.table [], rest)
        | rest => readFields fuel (room - tableSteps) [] [] rest
    | _ =>
      match behindMoment? s with
      | some none => .error .malformed
      | some (some rest) =>
        .ok (.moment (String.ofList (s.take (s.length - rest.length))), rest)
      | none => readNumber s

/-- The rest of a list, with the items so far in reverse. -/
def readItems : (fuel room : Nat) → (before : List Data) → List Char →
    Except Trouble (Data × List Char)
  | _, _, before, ']' :: rest => .ok (.list before.reverse, rest)
  | 0, _, _, _ => .error .malformed
  | fuel + 1, room, before, s => do
    let (item, s) ← readValue fuel room s
    let s ← orMalformed (skipBetween? s.length s)
    match s with
    | ']' :: rest => return (.list (item :: before).reverse, rest)
    | ',' :: rest =>
      let s ← orMalformed (skipBetween? rest.length rest)
      readItems fuel room (item :: before) s
    | _ => .error .malformed

/-- The rest of an inline table, with the fields so far and the keys of final values. -/
def readFields : (fuel room : Nat) → (final : List Key) → (fields : List (String × Data)) →
    List Char → Except Trouble (Data × List Char)
  | 0, _, _, _, _ => .error .malformed
  | fuel + 1, room, final, fields, s => do
    let (key, s) ← orMalformed (key? s)
    let s ← orMalformed (behind? '=' s)
    let (value, s) ← readValue fuel room (skipSpace s)
    let fields ← orMalformed (addInline? final key value fields)
    match skipSpace s with
    | '\x7d' :: rest => return (.table fields, rest)
    | ',' :: rest =>
      readFields fuel room (if isComposed value then key :: final else final) fields
        (skipSpace rest)
    | _ => .error .malformed

end

end DependencyAudit.Toml
