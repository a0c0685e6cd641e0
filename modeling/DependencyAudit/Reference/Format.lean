import DependencyAudit.Ascending
import DependencyAudit.ClassName
import DependencyAudit.Path
import DependencyAudit.Text.Characters
import DependencyAudit.Text.Split

/-!
The formats in which references to classes are written, and the endings of file names by which
a format is recognised. The formats are tried in their order.

In the output of `jdeps -verbose:class` a line that is indented and has an arrow as its first or
second word says that a class is used: the word behind the arrow starts with the name of that
class. Where both words are arrows, the second counts, if a name stands behind it. Lines that
are not indented sum up whole archives and say nothing about classes.

A plain listing has one class a line, with dots or slashes, with or without the ending of class
files. What stands behind a number sign is a comment; lines without anything else are passed over.
-/

namespace DependencyAudit.Reference

namespace Jdeps

/-- Whether a class name may start with the character. -/
def isNameStart (c : Char) : Bool := c.isAlpha || c == '_' || c == '$'

/-- Whether the character may stand in a class name. -/
def isNamePart (c : Char) : Bool := Text.isWord c || c == '$' || c == '.'

/-- The class name that a word starts with. -/
def target? : List Char → Option (List Char)
  | [] => none
  | c :: rest => if isNameStart c then some (c :: rest.takeWhile isNamePart) else none

def arrow : List Char := ['-', '>']

/-- The class that the words of an indented line refer to. -/
def ofWords? : List (List Char) → Option (List Char)
  | first :: second :: rest =>
    let behindSecond :=
      match rest with
      | third :: _ => if second = arrow then target? third else none
      | [] => none
    match behindSecond with
    | some name => some name
    | none => if first = arrow then target? second else none
  | _ => none

/-- The class that a line refers to. -/
def ofLine? : List Char → Option (List Char)
  | [] => none
  | c :: line => if Text.isBlank c then ofWords? (Text.words line) else none

/-- The classes that the output refers to, as often as it does. -/
def classes (content : List Char) : List (List Char) := (Text.lines content).filterMap ofLine?

end Jdeps

namespace Listing

/-- The line up to its comment, without blanks at either end. -/
def uncommented (line : List Char) : List Char := Text.trim (line.takeWhile (· ≠ '#'))

/-- The class that a line names. -/
def ofLine? (line : List Char) : Option (List Char) :=
  match uncommented line with
  | [] => none
  | name => some (ClassName.ofListed name)

/-- The classes that the listing names, as often as it does. -/
def classes (content : List Char) : List (List Char) := (Text.lines content).filterMap ofLine?

end Listing

/-- A format of reference listings. -/
inductive Format where
  | jdeps
  | listing
  deriving DecidableEq

namespace Format

/-- All formats, in the order in which they are tried. -/
def all : List Format := [jdeps, listing]

def name : Format → String
  | jdeps => "jdeps"
  | listing => "listing"

/-- The endings of the names of files in the format. -/
def endings : Format → List String
  | jdeps => [".jdeps"]
  | listing => [".classes", ".refs"]

def hasEnding (ending name : String) : Bool := (Text.before? ending.toList name.toList).isSome

def ofName? (name : String) : Option Format :=
  all.find? fun f => f.endings.any fun ending => hasEnding ending name

def ofPath? (p : Path) : Option Format := ofName? (p.name?.getD "")

/-- The classes that a file in the format refers to, in ascending order. -/
def classes (f : Format) (content : List Char) : List String :=
  let found := match f with
    | jdeps => Jdeps.classes content
    | listing => Listing.classes content
  Ascending.strings (found.map String.ofList)

end Format

end DependencyAudit.Reference
