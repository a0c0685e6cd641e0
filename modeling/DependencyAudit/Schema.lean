import DependencyAudit.Text.Quoted

/-!
Data as it comes from a document, and how it is checked against a schema. Data is the common form of
what the readers of the formats give. The fields of a table keep the order of the document, and a
name may occur more than once.

A check gives a value, or all the issues that it finds, each with its place in the document. Checks
of the fields of one table are independent, so their issues add up, in the order of the fields.

Only the rules (`Schema.Rule`) are the program's own. Which other faults are told apart, and in
which order and at which places issues are reported, is how the validator in use does it, and an
assumption here.
-/

namespace DependencyAudit

/-- A value in a document. Numbers, dates and times are kept as they are written. -/
inductive Data where
  | null
  | flag (value : Bool)
  | number (written : String)
  | moment (written : String)
  | text (value : String)
  | list (items : List Data)
  | table (fields : List (String × Data))

namespace Data

def lastField? (name : String) (fields : List (String × Data)) : Option Data :=
  (fields.reverse.find? (·.1 = name)).map (·.2)

end Data

namespace Schema

/-- A step towards a place in a document. -/
inductive Step where
  | field (name : String)
  | item (index : Nat)
  deriving DecidableEq

/-- A rule of this program that data of the right shape can still break. -/
inductive Rule where
  | ignoreForm (entry : String)
  | bucketNamed
  | entryNamed
  deriving DecidableEq

def Rule.message : Rule → String
  | ignoreForm entry =>
    "ignore entries must look like 'group:name', got " ++ Text.quoted entry
  | bucketNamed => "suggestion_bucket must not be empty"
  | entryNamed => "dependency needs a 'module' or a 'project'"

inductive Fault where
  | malformed
  | missing
  | unknownField
  | notText
  | notPath
  | notList
  | notSequence
  | notSet
  | notTable
  | notRecord
  | broken (rule : Rule)
  deriving DecidableEq

/-- A fault and its place. -/
structure Issue where
  place : List Step
  fault : Fault
  deriving DecidableEq

/-- A checked value, or what is wrong with the data. -/
abbrev Checked (α : Type) := Except (List Issue) α

def issues {α : Type} : Checked α → List Issue
  | .ok _ => []
  | .error found => found

/-- A check with a single issue, at the place where it stands. -/
def failing {α : Type} (fault : Fault) : Checked α := .error [⟨[], fault⟩]

/-- The check of something one step further in. -/
def within {α : Type} (step : Step) : Checked α → Checked α
  | .ok a => .ok a
  | .error found => .error (found.map fun i => { i with place := step :: i.place })

/-- Two independent checks, in the order of their issues. -/
def both {α β : Type} (a : Checked α) (b : Checked β) : Checked (α × β) :=
  match a, b with
  | .ok x, .ok y => .ok (x, y)
  | a, b => .error (issues a ++ issues b)

/-- Independent checks of the items of a list, counted from the given index. -/
def each {α β : Type} (check : α → Checked β) (index : Nat) : List α → Checked (List β)
  | [] => .ok []
  | a :: l =>
    (both (within (.item index) (check a)) (each check (index + 1) l)).map fun r => r.1 :: r.2

def text : Data → Checked String
  | .text s => .ok s
  | _ => failing .notText

/-- Nothing, or what a check makes of the value. -/
def orNull {α : Type} (check : Data → Checked α) : Data → Checked (Option α)
  | .null => .ok none
  | d => (check d).map some

/-- A list of things that a check accepts; `otherwise` is reported for anything else. -/
def listOf {α : Type} (otherwise : Fault) (check : Data → Checked α) : Data → Checked (List α)
  | .list items => each check 0 items
  | _ => failing otherwise

/-- An issue for every name of a field that is not among the given ones, in the order in which
the names first come. -/
def unknownFields (known : List String) (fields : List (String × Data)) : List Issue :=
  ((fields.map Prod.fst).filter fun name => !known.contains name).eraseDups.map fun name =>
    ⟨[.field name], .unknownField⟩

/-- The check, with further issues after its own. -/
def alsoReporting {α : Type} (more : List Issue) (c : Checked α) : Checked α :=
  match c, more with
  | .ok a, [] => .ok a
  | c, more => .error (issues c ++ more)

/-- The check of a field, with a value to take where the field is absent. -/
def field {α : Type} (fields : List (String × Data)) (name : String) (absent : Checked α)
    (check : Data → Checked α) : Checked α :=
  within (.field name) (match Data.lastField? name fields with
    | none => absent
    | some d => check d)

/-- The check, and if it succeeds a rule on its value. -/
def ensuring {α : Type} (rule : α → Option Rule) (c : Checked α) : Checked α :=
  match c with
  | .error found => .error found
  | .ok a =>
    match rule a with
    | none => .ok a
    | some r => failing (.broken r)

end Schema

end DependencyAudit
