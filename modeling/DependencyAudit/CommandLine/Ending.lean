import DependencyAudit.Audit
import DependencyAudit.CommandLine.Arguments
import DependencyAudit.CommandLine.Switch
import DependencyAudit.Text.ControlSequence

/-!
How a command ends: with lines for the user, with a violation, with a failure that is reported,
or with a word on how the command line is used. The ending decides the exit code and what is
printed. Only a violation has exit code 1. What is printed to something that is no terminal loses
its control sequences. Whatever is printed is taken to be within the encoding of the output, so that
printing does not fail.
-/

namespace DependencyAudit

def Schema.Step.text : Schema.Step → String
  | field name => name
  | item index => toString index

def Schema.Fault.message : Schema.Fault → String
  | malformed => "not well-formed"
  | missing => "missing"
  | unknownField => "unknown field"
  | notText => "not a text"
  | notPath => "not a path"
  | notList => "not a list"
  | notSequence => "not a list"
  | notSet => "not a list"
  | notTable => "not a table"
  | notRecord => "not a table"
  | broken rule => rule.message

def Schema.Issue.text (i : Schema.Issue) : String :=
  if i.place = [] then i.fault.message
  else ".".intercalate (i.place.map Schema.Step.text) ++ ": " ++ i.fault.message

/-- The issues of a document that a failure is about. -/
def Failure.issues : Failure → List Schema.Issue
  | config (.invalid issues) => issues
  | config (.invalidOption issues) => issues
  | report (.invalid issues) => issues
  | _ => []

/-- The message for a failure, with the issues that it is about. -/
def Failure.fullMessage (f : Failure) : String :=
  if f.issues = [] then f.message
  else f.message ++ ": " ++ "; ".intercalate (f.issues.map Schema.Issue.text)

namespace CommandLine

inductive Ending where
  | lines (written : List String)
  | violation (found : Violation)
  | failure (cause : Failure)
  | misuse (command : Option Command) (what : Misuse)
  | help (command : Option Command)
  | nothingAsked

namespace Ending

def exitCode : Ending → Nat
  | lines _ => 0
  | violation _ => 1
  | failure _ => 2
  | misuse _ _ => 2
  | help _ => 0
  | nothingAsked => 2

/-- What is printed for the user. -/
def output : Ending → String
  | lines written => String.join (written.map (· ++ "\n"))
  | help command => CommandLine.help command
  | _ => ""

/-- What is printed about troubles. -/
def errors : Ending → String
  | violation found => found.message ++ "\n"
  | failure cause => "Error: " ++ cause.fullMessage ++ "\n"
  | misuse command what =>
    (if what.showsUsage then usage command ++ "\n" else "") ++ "Error: " ++ what.message ++ "\n"
  | nothingAsked => CommandLine.help none
  | _ => ""

end Ending

/-- The form in which a text is printed. -/
def printed (toTerminal : Bool) (s : String) : String :=
  if toTerminal then s else String.ofList (Text.withoutControlSequences s.toList)

end CommandLine

end DependencyAudit
