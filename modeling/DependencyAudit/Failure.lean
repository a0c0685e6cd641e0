import DependencyAudit.Path
import DependencyAudit.Schema
import DependencyAudit.Toml.Number

/-!
What can go wrong on the way to a verdict, as causes. Each cause has one message. A violation
is no failure: it is a verdict.

Some failures are *reported*: the command line prints them and ends in an orderly way. The
others (text that is not UTF-8, a document beyond a limit of the reader, a path with a null
character, an archive that needs a newer reader or has an unreadable name, an entry without any
name, a log level that does not exist) stop the program.
-/

namespace DependencyAudit

/-- Why a path could not be looked at, read or written. -/
inductive Obstacle where
  | missing
  | notDirectory
  | isDirectory
  | nameTooLong
  | nullCharacter
  | denied
  deriving DecidableEq

inductive ArchiveFault where
  | noEndRecord
  | severalDisks
  | badOffset
  | truncated
  | badSignature
  | newerVersion (version : Nat)
  | unreadableName
  | extraTooShort (tag size : Nat)
  | extraWithout (field : String)
  deriving DecidableEq

inductive ConfigFault where
  | missing (path : Path)
  | malformed (path : Path)
  | invalid (issues : List Schema.Issue)
  | invalidOption (issues : List Schema.Issue)
  | noProject
  deriving DecidableEq

/-- What is wrong with the resolution report, or with what is asked of it. -/
inductive ReportFault where
  | missing (path : Path)
  | invalid (issues : List Schema.Issue)
  | badNotation (written : String)
  | unknownBuckets (unknown known : List String)
  deriving DecidableEq

/-- A reason why no verdict is reached. -/
inductive Failure where
  | path (obstacle : Obstacle) (path : Path)
  | archive (fault : ArchiveFault)
  | notUtf8
  | tooManyDigits (count : Nat)
  | tooDeep
  | config (fault : ConfigFault)
  | report (fault : ReportFault)
  | namelessEntry
  | noExtractor (location : Path)
  | unknownLogLevel
  deriving DecidableEq

/-- The number and words of the operating system for an obstacle. -/
def Obstacle.words : Obstacle → String
  | missing => "[Errno 2] No such file or directory"
  | notDirectory => "[Errno 20] Not a directory"
  | isDirectory => "[Errno 21] Is a directory"
  | nameTooLong => "[Errno 36] File name too long"
  | nullCharacter => "embedded null byte"
  | denied => "[Errno 13] Permission denied"

/-- Whether the obstacle means that nothing is there. -/
def Obstacle.isAbsence : Obstacle → Bool
  | nameTooLong => false
  | denied => false
  | _ => true

def Obstacle.message (o : Obstacle) (p : Path) : String :=
  match o with
  | nullCharacter => o.words
  | _ => o.words ++ ": " ++ Text.quoted p.text

def ArchiveFault.message : ArchiveFault → String
  | noEndRecord => "File is not a zip file"
  | severalDisks => "zipfiles that span multiple disks are not supported"
  | badOffset => "Bad offset for central directory"
  | truncated => "Truncated central directory"
  | badSignature => "Bad magic number for central directory"
  | newerVersion version =>
    "zip file version " ++ toString (version / 10) ++ "." ++ toString (version % 10)
  | unreadableName => "unreadable name in the central directory"
  | extraTooShort tag size =>
    "Corrupt extra field " ++ String.ofList (Text.hex 4 tag) ++ " (size=" ++ toString size ++ ")"
  | extraWithout field => "Corrupt zip64 extra field. " ++ field ++ " not found."

def ConfigFault.message : ConfigFault → String
  | missing p => "config file not found: " ++ p.text
  | malformed p => "invalid TOML in " ++ p.text
  | invalid _ => "invalid configuration"
  | invalidOption _ => "invalid option"
  | noProject => "no project path configured and none recorded in the resolution report"

def ReportFault.message : ReportFault → String
  | missing p => "resolution report not found: " ++ p.text
  | invalid _ => "invalid resolution report"
  | badNotation written => "invalid module notation: " ++ Text.quoted written
  | unknownBuckets unknown known =>
    "unknown dependency bucket(s) " ++ Text.quotedList unknown ++ "; report has "
      ++ Text.quotedList known

namespace Failure

def message : Failure → String
  | path o p => o.message p
  | archive f => f.message
  | notUtf8 => "the text is not UTF-8"
  | tooManyDigits count =>
    "Exceeds the limit (" ++ toString Toml.maxDigits ++ " digits) for integer string conversion: "
      ++ "value has " ++ toString count
      ++ " digits; use sys.set_int_max_str_digits() to increase the limit"
  | tooDeep => "the document has values too deep inside one another"
  | config f => f.message
  | report f => f.message
  | namelessEntry => "an entry with an empty module name needs a project"
  | noExtractor location => "no extractor for compiled output " ++ location.text
  | unknownLogLevel => "Unable to configure logger 'implicit_deps'"

/-- Whether the command line reports the failure instead of stopping at it. -/
def isReported : Failure → Bool
  | path .nullCharacter _ => false
  | archive (.newerVersion _) => false
  | archive .unreadableName => false
  | notUtf8 => false
  | tooManyDigits _ => false
  | tooDeep => false
  | namelessEntry => false
  | unknownLogLevel => false
  | _ => true

end Failure

end DependencyAudit
