import Recrawl.Cli.Usage
import Recrawl.Text.Visible

/-!
Faults in a command line and how they are reported: the fault, perhaps a tip, and
perhaps the call of the command.
-/
namespace Recrawl.Cli

inductive UsageFault
  | unknownArgument (text : String)
  | unknownCommand (text : String)
  | missingCommand (names : List String)
  | missingOperands (title : String)
  | missingValue (title : String)
  | extraValue (title value : String)
  | repeated (title : String)
  | rejected (title value reason : String)
  deriving DecidableEq, Repr

inductive Tip
  /-- An option with a similar name. -/
  | option (name : String)
  /-- An option of a command that follows. -/
  | optionBelow (command name : String)
  /-- An operand that begins with a hyphen. -/
  | operand (text : String)
  /-- Commands with similar names. -/
  | commands (names : List String)
  /-- A command behind the two hyphens that end the options. -/
  | bareCommand (name : String)
  deriving DecidableEq, Repr

structure Complaint where
  command : CommandForm
  fault : UsageFault
  tip : Option Tip := none
  /-- The titles of the options that the call names, if it names any in particular. -/
  used : Option (List String) := none

/-- A text of the command line between single quotes. A sequence that it leaves open ends with
it. -/
def cited (text : String) : String :=
  "'" ++ Text.visible text ++ "'"

/-- The diagnostic for a fault. The reason for which a value is rejected stands as it is. -/
def UsageFault.message : UsageFault → String
  | unknownArgument text => "unexpected argument " ++ cited text ++ " found"
  | unknownCommand text => "unrecognized subcommand " ++ cited text
  | missingCommand names =>
    "'" ++ programName ++ "' requires a subcommand but one was not provided\n  [subcommands: " ++
      ", ".intercalate names ++ "]"
  | missingOperands title => "the following required arguments were not provided:\n  " ++ title
  | missingValue title => "a value is required for '" ++ title ++ "' but none was supplied"
  | extraValue title value =>
    "unexpected value " ++ cited value ++ " for '" ++ title ++ "' found; no more were expected"
  | repeated title => "the argument '" ++ title ++ "' cannot be used multiple times"
  | rejected title value reason =>
    "invalid value " ++ cited value ++ " for '" ++ title ++ "': " ++ reason

/-- The call of the command is of no use where only a value is at fault. -/
def UsageFault.isAboutValue : UsageFault → Bool
  | missingValue _ => true
  | rejected _ _ _ => true
  | _ => false

def Tip.message : Tip → String
  | option name => "a similar argument exists: '--" ++ name ++ "'"
  | optionBelow command name => "'" ++ command ++ " --" ++ name ++ "' exists"
  | operand text => "to pass " ++ cited text ++ " as a value, use " ++ cited ("-- " ++ text)
  | commands names =>
    (match names with
      | [_] => "a similar subcommand exists: "
      | _ => "some similar subcommands exist: ") ++
      ", ".intercalate (names.map fun name => "'" ++ name ++ "'")
  | bareCommand name =>
    "subcommand '" ++ name ++ "' exists; to use it, remove the '--' before it"

/-- The report of a fault in the use of a command. A sequence that a reason leaves open reaches to
the option that is named last. -/
def Complaint.report (c : Complaint) : String :=
  Text.visible ("error: " ++ c.fault.message ++ "\n\n" ++
    (match c.tip with
      | some tip => "  tip: " ++ tip.message ++ "\n\n"
      | none => "") ++
    (if c.fault.isAboutValue then "" else "Usage: " ++ c.command.usage c.used ++ "\n\n") ++
    "For more information, try '") ++ "--help'.\n"

end Recrawl.Cli
