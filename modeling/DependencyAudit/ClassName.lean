import DependencyAudit.Text.Characters
import DependencyAudit.Text.Split

/-!
Class names as they are read off archive entries and listings.

An archive entry names a class if it ends in `.class`, is no part of the archive's own
`META-INF` directory, and is not one of the two descriptions that are compiled to class files
but never referred to by name. The directory of a versioned variant, `META-INF/versions/`
followed by a number, does not count, and a backslash counts as a slash.
-/

namespace DependencyAudit.ClassName

def classEnding : List Char := ".class".toList

/-- The directory in which an archive keeps what describes it. -/
def ownDirectory : List Char := "META-INF/".toList

/-- The start of the directory of a versioned variant. -/
def versionsDirectory : List Char := "META-INF/versions/".toList

/-- Class files that describe a module or package and are never referred to by name. -/
def descriptions : List (List Char) := ["module-info".toList, "package-info".toList]

/-- The entry without the directory of a versioned variant at its start. -/
def dropVersion (entry : List Char) : List Char :=
  match Text.after? versionsDirectory entry with
  | none => entry
  | some rest =>
    match rest.takeWhile Text.isDecimalDigit, rest.dropWhile Text.isDecimalDigit with
    | _ :: _, '/' :: inner => inner
    | _, _ => entry

def lastSegment (s : List Char) : List Char := ((Text.splitAt '/' s).getLast?).getD []

/-- The name with dots for slashes. -/
def dotted (s : List Char) : List Char := Text.replaceChar '/' '.' s

def ofEntryText? (entry : List Char) : Option (List Char) :=
  let inner := dropVersion (Text.replaceChar '\\' '/' entry)
  if (Text.after? ownDirectory inner).isSome then none
  else
    match Text.before? classEnding inner with
    | none => none
    | some stem => if descriptions.contains (lastSegment stem) then none else some (dotted stem)

/-- The class that an archive entry stands for. -/
def ofEntry? (entry : String) : Option String :=
  (ofEntryText? entry.toList).map String.ofList

/-- The class that a line of a listing stands for: blanks at either end and the ending of class
files do not count, and a slash counts as a dot. -/
def ofListed (written : List Char) : List Char :=
  let name := Text.trim written
  dotted ((Text.before? classEnding name).getD name)

end DependencyAudit.ClassName
