import DependencyAudit.Json.Token
import DependencyAudit.Schema

/-!
Reading JSON. The tokens are read from left to right with a stack of the lists and tables that
are open, and a note of what may come next. A text is refused when a token comes where it must
not, when something is left open, or when an item or field stands inside more lists and tables
than the given limit. An empty list or table holds none, so it may stand one level deeper.
-/

namespace DependencyAudit.Json

/-- A list or table that is open, with what stands in it so far, in reverse. The name is that
of the field whose value is being read. -/
inductive Frame where
  | list (before : List Data)
  | table (before : List (String × Data)) (name : String)

/-- What may come next. -/
inductive Expected where
  | value
  | firstItem
  | firstField
  | name
  | colon
  | separator
  deriving DecidableEq

/-- The state of reading: the open frames, innermost first, and what may come next; or the
value, once it is complete. -/
inductive Reader where
  | reading (frames : List Frame) (expected : Expected)
  | complete (value : Data)

namespace Reader

/-- Puts a complete value where it belongs. -/
def accept (frames : List Frame) (value : Data) : Reader :=
  match frames with
  | [] => .complete value
  | .list before :: outer => .reading (.list (value :: before) :: outer) .separator
  | .table before name :: outer =>
    .reading (.table ((name, value) :: before) name :: outer) .separator

/-- Reads the first token of a value. -/
def value? (frames : List Frame) : Token → Option Reader
  | .openList => some (.reading (.list [] :: frames) .firstItem)
  | .openTable => some (.reading (.table [] "" :: frames) .firstField)
  | .null => some (accept frames .null)
  | .flag b => some (accept frames (.flag b))
  | .number written => some (accept frames (.number (String.ofList written)))
  | .text s => some (accept frames (.text (String.ofList s)))
  | _ => none

/-- Reads the name of a field. -/
def name? (frames : List Frame) (t : Token) : Option Reader :=
  match frames, t with
  | .table before _ :: outer, .text s =>
    some (.reading (.table before (String.ofList s) :: outer) .colon)
  | _, _ => none

/-- Reads what stands after an item or field. -/
def separator? (frames : List Frame) (t : Token) : Option Reader :=
  match frames, t with
  | .list before :: outer, .closeList => some (accept outer (.list before.reverse))
  | .list _ :: _, .comma => some (.reading frames .value)
  | .table before _ :: outer, .closeTable => some (accept outer (.table before.reverse))
  | .table _ _ :: _, .comma => some (.reading frames .name)
  | _, _ => none

/-- Reads a token. The number of open frames is looked at where the innermost one turns out not
to be empty. -/
def step? (limit : Nat) (r : Reader) (t : Token) : Option Reader :=
  match r with
  | .complete _ => none
  | .reading frames .value => value? frames t
  | .reading frames .firstItem =>
    match t with
    | .closeList => separator? frames t
    | _ => if frames.length ≤ limit then value? frames t else none
  | .reading frames .firstField =>
    match t with
    | .closeTable => separator? frames t
    | _ => if frames.length ≤ limit then name? frames t else none
  | .reading frames .name => name? frames t
  | .reading frames .colon =>
    match t with
    | .colon => some (.reading frames .value)
    | _ => none
  | .reading frames .separator => separator? frames t

def value : Reader → Option Data
  | .complete d => some d
  | .reading _ _ => none

end Reader

/-- The value of a JSON text in which items and fields stand inside at most `limit` lists and
tables. -/
def read? (limit : Nat) (s : List Char) : Option Data :=
  tokens? s >>= fun ts => ts.foldlM (Reader.step? limit) (.reading [] .value) >>= Reader.value

end DependencyAudit.Json
