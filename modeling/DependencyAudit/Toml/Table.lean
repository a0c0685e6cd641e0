import DependencyAudit.Schema

/-!
Tables as they grow while a document is read. A key with several parts leads through tables, which
are made where they are missing.
-/

namespace DependencyAudit.Toml

/-- A key with its parts. -/
abbrev Key := List String

/-- The fields with a value put in the place of an old one of the same name. -/
def replaceField (name : String) (value : Data) : List (String × Data) → List (String × Data)
  | [] => []
  | (other, old) :: rest =>
    if other = name then (other, value) :: rest else (other, old) :: replaceField name value rest

/-- Changes the table at the end of a way; tables on the way are made. Where `intoLists` is
set, a list on the way stands for its last element. -/
def changeAt? (intoLists : Bool) (change : List (String × Data) → Option (List (String × Data))) :
    Key → List (String × Data) → Option (List (String × Data))
  | [], fields => change fields
  | name :: way, fields =>
    match fields.lookup name with
    | none =>
      (changeAt? intoLists change way []).map fun sub => fields ++ [(name, .table sub)]
    | some (.table sub) =>
      (changeAt? intoLists change way sub).map fun sub => replaceField name (.table sub) fields
    | some (.list items) =>
      match intoLists, items.getLast? with
      | true, some (.table sub) =>
        (changeAt? intoLists change way sub).map fun sub =>
          replaceField name (.list (items.dropLast ++ [.table sub])) fields
      | _, _ => none
    | some _ => none

/-- The fields with one more, unless there is one of its name. -/
def addField? (name : String) (value : Data) (fields : List (String × Data)) :
    Option (List (String × Data)) :=
  match fields.lookup name with
  | none => some (fields ++ [(name, value)])
  | some _ => none

/-- The fields with one more empty table in the list of a name. -/
def addElement? (name : String) (fields : List (String × Data)) :
    Option (List (String × Data)) :=
  match fields.lookup name with
  | none => some (fields ++ [(name, .list [.table []])])
  | some (.list items) => some (replaceField name (.list (items ++ [.table []])) fields)
  | some _ => none

/-- Whether a value is final once it is written. -/
def isComposed : Data → Bool
  | .list _ => true
  | .table _ => true
  | _ => false

/-- Whether one of the keys is the given one or a start of it. -/
def covers (keys : List Key) (key : Key) : Bool := keys.any fun k => k.isPrefixOf key

end DependencyAudit.Toml
