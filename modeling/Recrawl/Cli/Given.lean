import Recrawl.Cli.Complaint
import Recrawl.Text.Similarity

/-!
What is given on a command line. Arguments are read from left to right. An option
whose value is an argument of its own is checked when the next option or operand
begins, or at the end; the first fault or the first question for help ends the
reading, and an argument that is not known comes before a fault in the option in
front of it.
-/
namespace Recrawl.Cli

inductive Stop
  /-- Help for a command was asked for. -/
  | help (command : CommandForm)
  /-- The version was asked for. -/
  | version
  /-- There was nothing to read. -/
  | empty
  | fault (complaint : Complaint)

structure Given where
  /-- The options with their values, in order. -/
  options : List (OptionForm × String) := []
  operands : List String := []
  /-- The last option with its value, if it is not checked yet. -/
  pending : Option (OptionForm × Option String) := none

namespace Given

def values (g : Given) (long : String) : List String :=
  (g.options.filter fun o => o.1.long == long).map (·.2)

def has (g : Given) (long : String) : Bool :=
  g.options.any fun o => o.1.long == long

/-- The value of an option that is given once. -/
def value? (g : Given) (long : String) : Option String :=
  (g.values long).head?

/-- The option is given for the second time, but may be given only once. -/
def repeats (g : Given) (o : OptionForm) : Bool := !o.repeatable && g.has o.long

def titles (g : Given) : List String :=
  (g.options.map fun o => o.1.title).eraseDups

/-- The titles of the options that are given, the pending one included. If it repeats another, none
of the two counts. -/
def allTitles (g : Given) : List String :=
  match g.pending with
  | some (o, some _) =>
    if g.repeats o then g.titles.filter (· != o.title) else (g.titles ++ [o.title]).eraseDups
  | _ => g.titles

end Given

namespace CommandForm

def stop {α : Type} (c : CommandForm) (fault : UsageFault) (tip : Option Tip := none)
    (used : Option (List String) := none) : Except Stop α :=
  .error (.fault { command := c, fault, tip, used })

def note (c : CommandForm) (g : Given) (o : OptionForm) (value : String) : Except Stop Given :=
  if o.long == "help" then .error (.help c)
  else if o.long == "version" then .error .version
  else if g.repeats o then c.stop (.repeated o.title)
  else if o.needsText && value.isEmpty then c.stop (.missingValue o.title)
  else
    match o.reject value with
    | some reason => c.stop (.rejected o.title value reason)
    | none => .ok { g with options := g.options ++ [(o, value)] }

def settle (c : CommandForm) (g : Given) : Except Stop Given :=
  match g.pending with
  | none => .ok g
  | some (o, none) => c.stop (.missingValue o.title)
  | some (o, some value) => c.note { g with pending := none } o value

/-- Notes an option whose value is known. -/
def add (c : CommandForm) (g : Given) (o : OptionForm) (value : String) : Except Stop Given := do
  c.note (← c.settle g) o value

/-- Begins an option whose value is the next argument. -/
def await (c : CommandForm) (g : Given) (o : OptionForm) : Except Stop Given := do
  let g ← c.settle g
  .ok { g with pending := some (o, none) }

/-- The tip to give an argument that begins with a hyphen as an operand, if there are operands. -/
def operandTip (c : CommandForm) (text : String) : Option Tip :=
  c.operands.map fun _ => .operand text

/-- The option of a command below that is most similar to a name, of the command that comes first
in the arguments. -/
def similarBelow (c : CommandForm) (name : String) (args : List String) : Option Tip :=
  args.findSome? fun arg => (c.commands.find? fun entry => entry.name == arg).bind fun entry =>
    (Text.similarWords name entry.longs).getLast?.map (Tip.optionBelow entry.name)

/-- The complaint about an option that is not known, in front of the arguments `rest`. -/
def unknownOption (c : CommandForm) (g : Given) (name : String) (rest : List String) :
    Except Stop Given :=
  let text := "--" ++ name
  let similar := (Text.similarWords name (c.allOptions.map (·.long))).getLast?.bind fun long =>
    c.allOptions.find? fun o => o.long == long
  let (tip, used) := match similar with
    | some o => (some (Tip.option o.long), (g.allTitles ++ [o.title]).eraseDups)
    | none => ((c.similarBelow name rest).or (c.operandTip text), g.allTitles)
  c.stop (.unknownArgument text) tip (if used.isEmpty then none else some used)

def readLetters (c : CommandForm) : Given → List Char → Except Stop Given
  | g, [] => .ok g
  | g, letter :: rest =>
    match c.allOptions.find? fun o => o.short == some letter with
    | none =>
      let text := "-" ++ letter.toString
      c.stop (.unknownArgument text) (c.operandTip text)
    | some o =>
      match o.value, rest with
      | none, rest =>
        match c.add g o "" with
        | .error stop => .error stop
        | .ok g => c.readLetters g rest
      | some _, [] => c.await g o
      | some _, '=' :: rest => c.add g o (String.ofList rest)
      | some _, rest => c.add g o (String.ofList rest)

/-- Reads one argument that begins with a hyphen, in front of the arguments `rest`. -/
def readOption (c : CommandForm) (g : Given) (arg : String) (rest : List String) :
    Except Stop Given :=
  match arg.toList with
  | '-' :: '-' :: chars =>
    let (name, tail) := chars.span (· != '=')
    let name := String.ofList name
    match c.allOptions.find? fun o => o.long == name with
    | none => c.unknownOption g name rest
    | some o =>
      match o.value, tail.tail?.map String.ofList with
      | some _, some value => c.add g o value
      | some _, none => c.await g o
      | none, some value =>
        c.stop (.extraValue o.title value) none (some (g.titles ++ [o.title]).eraseDups)
      | none, none => c.add g o ""
  | _ :: chars => c.readLetters g chars
  | [] => .ok g

def unknownCommand {α : Type} (c : CommandForm) (text : String) : Except Stop α :=
  let similar := Text.similarWords text (c.commands.map (·.name))
  c.stop (.unknownCommand text) (if similar.isEmpty then none else some (.commands similar))

/-- Reads the arguments behind the two hyphens that end the options. All are operands. -/
def readOperands (c : CommandForm) (g : Given) : List String → Except Stop Given
  | [] => .ok g
  | arg :: rest =>
    if c.operands.isSome then do
      let g ← c.settle g
      .ok { g with operands := g.operands ++ arg :: rest }
    else if c.commands.isEmpty then c.stop (.unknownArgument arg)
    else if c.commands.any fun entry => entry.name == arg then
      c.stop (.unknownArgument arg) (some (.bareCommand arg))
    else c.unknownCommand arg

/-- The argument is an option or several, and no value. -/
def isOption (arg : String) : Bool :=
  arg.startsWith "-" && arg != "-"

/-- Reads the arguments of a command. The reading ends in front of a command below it; the pending
option is not checked then. -/
def read (c : CommandForm) : Given → List String → Except Stop (Given × List String)
  | g, [] => .ok (g, [])
  | g, arg :: rest =>
    if arg == "--" then (c.readOperands g rest).map (·, [])
    else if isOption arg then
      match c.readOption g arg rest with
      | .error stop => .error stop
      | .ok g => c.read g rest
    else
      match g.pending with
      | some (o, none) => c.read { g with pending := some (o, some arg) } rest
      | _ =>
        if c.commands.any fun entry => entry.name == arg then .ok (g, arg :: rest)
        else if c.operands.isSome then
          match c.settle g with
          | .error stop => .error stop
          | .ok g => c.read { g with operands := g.operands ++ [arg] } rest
        else if c.commands.isEmpty then c.stop (.unknownArgument arg)
        else c.unknownCommand arg

/-- Reads all arguments of a command without commands below it. -/
def readAll (c : CommandForm) (args : List String) : Except Stop Given := do
  let (g, _) ← c.read {} args
  c.settle g

end CommandForm

end Recrawl.Cli
