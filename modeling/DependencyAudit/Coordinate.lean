import DependencyAudit.Text.Characters
import DependencyAudit.Text.Quoted
import DependencyAudit.Text.Split

/-!
Module coordinates: what a module is called in a repository. A coordinate has a group, which
may be empty, a name and a version, which may be empty as well.

Three written forms are read: `group:name:version`, `group:name` or `name:version`, and `name`.
In the form with two parts the second part is a version exactly if it starts with a digit.
-/

namespace DependencyAudit

/-- A module as published to a repository. -/
structure Coordinate where
  group : String
  name : String
  version : String := ""
  deriving DecidableEq

namespace Coordinate

/-- The module regardless of its version: group and name, or the name alone. -/
def identity (c : Coordinate) : String :=
  if c.group = "" then c.name else c.group ++ ":" ++ c.name

/-- The written form: the identity, and the version if there is one. -/
def text (c : Coordinate) : String :=
  if c.version = "" then c.identity else c.identity ++ ":" ++ c.version

/-- A form that shows every field between quotes, so distinct coordinates differ in it. -/
def descriptor (c : Coordinate) : String :=
  "ModuleCoordinate(group=" ++ Text.quoted c.group ++ ", name=" ++ Text.quoted c.name
    ++ ", version=" ++ Text.quoted c.version ++ ")"

/-- Whether a text starts with a digit, as a version does. -/
def looksLikeVersion : List Char → Bool
  | [] => false
  | c :: _ => Text.isNumericDigit c

/-- The coordinate of the given parts: one to three, none of them empty. -/
def ofParts? : List (List Char) → Option Coordinate
  | [name] => some ⟨"", String.ofList name, ""⟩
  | [first, second] =>
    if looksLikeVersion second then some ⟨"", String.ofList first, String.ofList second⟩
    else some ⟨String.ofList first, String.ofList second, ""⟩
  | [group, name, version] =>
    some ⟨String.ofList group, String.ofList name, String.ofList version⟩
  | _ => none

/-- Reads a coordinate. Blanks at either end do not count. -/
def parse? (written : String) : Option Coordinate :=
  let parts := Text.splitAt ':' (Text.trim written.toList)
  if parts.any List.isEmpty then none else ofParts? parts

/-- The order by group, then name, then version. -/
def before (a b : Coordinate) : Bool :=
  a.group < b.group
    || (a.group = b.group && (a.name < b.name || (a.name = b.name && a.version < b.version)))

end Coordinate

end DependencyAudit
