import DependencyAudit.Toml.Value

/-!
Documents of TOML 1.0. A document is read statement by statement: key/value pairs, headers of
tables, headers of elements of arrays of tables. Besides the data a reader keeps which tables
are closed to a second header or to dotted keys, and which values are final because they were
written as one (arrays and inline tables).
-/

namespace DependencyAudit.Toml

/-- A document as far as it is read: its fields, the table that is open, the tables closed to
further headers and dotted keys, those that will be closed with the next header, and the final
values. -/
structure Draft where
  fields : List (String × Data) := []
  header : Key := []
  closed : List Key := []
  closing : List Key := []
  final : List Key := []

namespace Draft

/-- The keys of the tables that a dotted key passes through below a header. -/
def passedThrough (header : Key) (key : Key) : List Key :=
  (List.range (key.length - 1)).map fun i => header ++ key.take (i + 1)

def addPair? (d : Draft) (key : Key) (value : Data) : Option Draft :=
  let passed := passedThrough d.header key
  let holder := d.header ++ key.dropLast
  match key.getLast? with
  | none => none
  | some name =>
    if passed.any d.closed.contains || covers d.final holder then none
    else
      (changeAt? true (addField? name value) holder d.fields).map fun fields =>
        { d with
          fields := fields
          closing := passed ++ d.closing
          final := if isComposed value then (d.header ++ key) :: d.final else d.final }

/-- Closes the tables that dotted keys have passed through. -/
def settle (d : Draft) : Draft := { d with closed := d.closing ++ d.closed, closing := [] }

def openTable? (d : Draft) (key : Key) : Option Draft :=
  let d := d.settle
  if d.closed.contains key || covers d.final key then none
  else
    (changeAt? true some key d.fields).map fun fields =>
      { d with fields := fields, header := key, closed := key :: d.closed }

/-- Opens a new element of an array of tables by its header. What was said of the element
before does not hold of the new one. -/
def openElement? (d : Draft) (key : Key) : Option Draft :=
  let d := d.settle
  match key.getLast? with
  | none => none
  | some name =>
    if covers d.final key then none
    else
      (changeAt? true (addElement? name) key.dropLast d.fields).map fun fields =>
        { d with
          fields := fields
          header := key
          closed := key :: d.closed.filter fun k => !key.isPrefixOf k
          final := d.final.filter fun k => !key.isPrefixOf k }

end Draft

def tableHeader? (d : Draft) (s : List Char) : Option (Draft × List Char) := do
  let (key, s) ← key? (skipSpace s)
  let d ← d.openTable? key
  let s ← behind? ']' s
  return (d, s)

def elementHeader? (d : Draft) (s : List Char) : Option (Draft × List Char) := do
  let (key, s) ← key? (skipSpace s)
  let d ← d.openElement? key
  let s ← behind? ']' s >>= behind? ']'
  return (d, s)

def readPair (d : Draft) (s : List Char) : Except Trouble (Draft × List Char) := do
  let (key, s) ← orMalformed (key? s)
  let s ← orMalformed (behind? '=' s)
  let s := skipSpace s
  let (value, s) ← readValue (2 * s.length + 1) maxSteps s
  let d ← orMalformed (d.addPair? key value)
  return (d, s)

/-- What a line says, up to its comment. -/
def readStatement (d : Draft) : List Char → Except Trouble (Draft × List Char)
  | [] => .ok (d, [])
  | '\n' :: s => .ok (d, '\n' :: s)
  | '#' :: s => .ok (d, '#' :: s)
  | '[' :: '[' :: s => orMalformed (elementHeader? d s)
  | '[' :: s => orMalformed (tableHeader? d s)
  | s => readPair d s

/-- Reads statements. Each but the last takes at least a line end, so `fuel` need not exceed
the length of the text. -/
def readStatements : (fuel : Nat) → Draft → List Char → Except Trouble Draft
  | 0, _, _ => .error .malformed
  | fuel + 1, d, s => do
    let (d, s) ← readStatement d (skipSpace s)
    let s ← orMalformed (skipComment? (skipSpace s))
    match s with
    | [] => return d
    | '\n' :: rest => readStatements fuel d rest
    | _ => .error .malformed

def read (s : List Char) : Except Trouble (List (String × Data)) :=
  (readStatements (s.length + 1) {} s).map Draft.fields

end DependencyAudit.Toml
