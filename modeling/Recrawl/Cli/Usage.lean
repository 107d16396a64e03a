/-!
The form of a command line: commands, their options and their operands, and the
help texts that follow from it.
-/
namespace Recrawl.Cli

def programName : String := "newsline"

structure OptionForm where
  /-- The name behind two hyphens. -/
  long : String
  /-- The letter behind one hyphen, if there is one. -/
  short : Option Char := none
  /-- The name of the value, if the option takes one. -/
  value : Option String := none
  /-- The option may be given more than once. -/
  repeatable : Bool := false
  help : String
  /-- The value that counts if none is given. -/
  default : Option String := none
  /-- Why a text is not accepted as a value; none if it is. -/
  reject : String → Option String := fun _ => none
  /-- Whether an empty text is no value at all. -/
  needsText : Bool := false

/-- The operands of a command, which are one or more texts. -/
structure OperandForm where
  name : String
  help : String
  required : Bool

structure CommandEntry where
  name : String
  about : String
  /-- The long names of its options. -/
  longs : List String

structure CommandForm where
  /-- The words that call the command. -/
  words : List String
  about : String
  options : List OptionForm
  operands : Option OperandForm := none
  /-- The commands below it. -/
  commands : List CommandEntry := []
  /-- The options for help and, for the program itself, for its version. -/
  helpOptions : List OptionForm

namespace OptionForm

def title (o : OptionForm) : String :=
  "--" ++ o.long ++ (match o.value with
    | some value => " <" ++ value ++ ">"
    | none => "")

def label (o : OptionForm) : String :=
  (match o.short with
    | some c => "-" ++ c.toString ++ ", "
    | none => "    ") ++ o.title

def description (o : OptionForm) : String :=
  o.help ++ (match o.default with
    | some text => " [default: " ++ text ++ "]"
    | none => "")

end OptionForm

def OperandForm.title (o : OperandForm) : String :=
  if o.required then "<" ++ o.name ++ ">..." else "[" ++ o.name ++ "]..."

namespace CommandForm

def allOptions (c : CommandForm) : List OptionForm := c.options ++ c.helpOptions

/-- The call of a command, with the names of what has to follow it. It names the given options, or
that there are some. -/
def usage (c : CommandForm) (used : Option (List String)) : String :=
  let options := used.getD (if c.options.isEmpty then [] else ["[OPTIONS]"])
  " ".intercalate (c.words ++ options ++ (c.operands.map OperandForm.title).toList ++
    (if c.commands.isEmpty then [] else ["<COMMAND>"]))

def padded (width : Nat) (text : String) : String :=
  text ++ String.ofList (List.replicate (width - text.length) ' ')

/-- A section of a help text: names with descriptions beside them. -/
def entries (title : String) (items : List (String × String)) : String :=
  let longest := (items.map fun item => item.1.length).foldl max 0
  let lines := items.map fun (name, text) => "  " ++ padded longest name ++ "  " ++ text ++ "\n"
  "\n" ++ title ++ ":\n" ++ String.join lines

def help (c : CommandForm) : String :=
  c.about ++ "\n\nUsage: " ++ c.usage none ++ "\n" ++
    (if c.commands.isEmpty then ""
      else entries "Commands" (c.commands.map fun entry => (entry.name, entry.about))) ++
    (match c.operands with
      | some o => entries "Arguments" [(o.title, o.help)]
      | none => "") ++
    (if c.allOptions.isEmpty then ""
      else entries "Options" (c.allOptions.map fun o => (o.label, o.description)))

end CommandForm

end Recrawl.Cli
