import Recrawl.Cli.Given
import Recrawl.Item.Basic
import Recrawl.Text.Blank
import Recrawl.Text.Integer
import Recrawl.Text.Quoted
import Recrawl.Time.Rfc3339

/-!
The command line of the program: its commands with their options, and what it is
asked to do.
-/
namespace Recrawl.Cli

def version : String := "0.1.0"

def readPair (text : String) : Except String (String × String) :=
  let (key, tail) := text.toList.span (· != '=')
  match tail with
  | [] => .error ("expected key=value, got " ++ Text.Quoted.quote text)
  | _ :: value =>
    let key := Text.trimChars key
    if key.isEmpty then .error ("empty metadata key in " ++ Text.Quoted.quote text)
    else .ok (String.ofList key, String.ofList value)

def rejectPair (text : String) : Option String :=
  match readPair text with
  | .error reason => some reason
  | .ok _ => none

def readCount (text : String) : Except Text.IntegerFault Nat :=
  Text.readNat 10 (0x10000000000000000 - 1) text.toList

def rejectCount (text : String) : Option String :=
  match readCount text with
  | .error fault => some fault.message
  | .ok _ => none

def rejectStatus (text : String) : Option String :=
  if (Status.parse? text).isSome then none else some (Status.unknownMessage text)

def rejectDate (text : String) : Option String :=
  match Time.parseRfc3339 text with
  | .error fault => some ("Invalid RFC 3339 date: " ++ fault.message)
  | .ok _ => none

def debugOption : OptionForm := { long := "debug", help := "Enable debug logging" }

def quietOption : OptionForm :=
  { long := "quiet", short := some 'q', help := "Only log warnings and errors" }

def configOption : OptionForm :=
  { long := "config", short := some 'c', value := some "CONFIG", needsText := true,
    help := "Config file path (default: ./newsline.toml or ~/.config/newsline/config.toml)" }

def metaOption (help : String) : OptionForm :=
  { long := "meta", short := some 'm', value := some "META", repeatable := true, help,
    reject := rejectPair }

def helpOption : OptionForm := { long := "help", short := some 'h', help := "Print help" }

def versionOption : OptionForm :=
  { long := "version", short := some 'V', help := "Print version" }

def classifyForm : CommandForm where
  words := [programName, "classify"]
  about := "Classify fetched documents and resolve sitemaps into status records"
  options := [
    { long := "url", value := some "URL",
      help := "URL the document was fetched from (single input only; default: file:// URL)" },
    { long := "content-type", value := some "CONTENT_TYPE",
      help := "Content type reported by the server" },
    metaOption "Metadata carried by the item (repeatable)",
    debugOption,
    { long := "output-dir", short := some 'o', value := some "OUTPUT_DIR", needsText := true,
      help := "Write status records as JSON lines into this directory" },
    quietOption,
    { long := "workers", short := some 'w', value := some "WORKERS",
      help := "Number of parallel workers", reject := rejectCount },
    configOption]
  operands := some ⟨"INPUTS", "Fetched documents (paths or glob patterns)", true⟩
  helpOptions := [helpOption]

def scheduleForm : CommandForm where
  words := [programName, "schedule"]
  about := "Compute the next fetch date of a URL from its metadata"
  options := [
    { long := "status", short := some 's', value := some "STATUS", default := some "fetched",
      help := "Crawl status (discovered, fetched, fetch_error, redirection, error)",
      reject := rejectStatus },
    metaOption "Metadata of the URL (repeatable)",
    { long := "now", value := some "NOW", help := "Reference time (RFC 3339), defaults to now",
      reject := rejectDate },
    debugOption,
    quietOption,
    configOption]
  helpOptions := [helpOption]

def settingsForm : CommandForm where
  words := [programName, "config"]
  about := "Show current configuration"
  options := [debugOption, quietOption, configOption]
  helpOptions := [helpOption]

def helpForm : CommandForm where
  words := [programName, "help"]
  about := "Print this message or the help of the given subcommand(s)"
  options := []
  operands := some ⟨"COMMAND", "Print help for the subcommand(s)", false⟩
  helpOptions := []

def commandForms : List (String × CommandForm) :=
  [("classify", classifyForm), ("schedule", scheduleForm), ("config", settingsForm),
    ("help", helpForm)]

def programForm : CommandForm where
  words := [programName]
  about := "Sitemap and feed classification for news crawls"
  options := [debugOption, quietOption, configOption]
  commands := commandForms.map fun (name, form) =>
    ⟨name, form.about, form.allOptions.map (·.long)⟩
  helpOptions := [helpOption, versionOption]

structure ClassifyRequest where
  inputs : List String
  url : Option String
  contentType : Option String
  pairs : List (String × String)
  outputDirectory : Option String
  workers : Option Nat

structure ScheduleRequest where
  status : Status
  pairs : List (String × String)
  now : Option Time.Instant

inductive Request
  | classify (request : ClassifyRequest)
  | schedule (request : ScheduleRequest)
  | showSettings

structure Invocation where
  request : Request
  isDebug : Bool
  isQuiet : Bool
  config : Option String

def pairsOf (g : Given) : List (String × String) :=
  (g.values "meta").filterMap fun text => (readPair text).toOption

def classifyRequest (g : Given) : ClassifyRequest where
  inputs := g.operands
  url := g.value? "url"
  contentType := g.value? "content-type"
  pairs := pairsOf g
  outputDirectory := g.value? "output-dir"
  workers := (g.value? "workers").bind fun text => (readCount text).toOption

def scheduleRequest (g : Given) : ScheduleRequest where
  status := ((g.value? "status").bind Status.parse?).getD .fetched
  pairs := pairsOf g
  now := (g.value? "now").bind Time.parseRfc3339?

def readHelp {α : Type} : List String → Except Stop α
  | [] => .error (.help programForm)
  | name :: rest =>
    match commandForms.lookup name, rest with
    | some form, [] => .error (.help form)
    | some form, other :: _ => form.stop (.unknownCommand other)
    | none, _ => programForm.stop (.unknownCommand name)

def requestOf (name : String) (g : Given) : Except Stop Request :=
  if name == "classify" then
    if g.operands.isEmpty then
      classifyForm.stop (.missingOperands "<INPUTS>...") none (some g.titles)
    else .ok (.classify (classifyRequest g))
  else if name == "schedule" then .ok (.schedule (scheduleRequest g))
  else .ok .showSettings

/-- The end of a command line without a command. -/
def endWithoutCommand {α : Type} (outer : Given) : Except Stop α := do
  let outer ← programForm.settle outer
  if outer.options.isEmpty then .error .empty
  else programForm.stop (.missingCommand (commandForms.map (·.1)))

/-- Reads a command line. Options in front of a command count for it too, unless it repeats
them. -/
def Invocation.read (args : List String) : Except Stop Invocation := do
  let (outer, rest) ← programForm.read {} args
  match rest with
  | [] => endWithoutCommand outer
  | name :: rest =>
    match commandForms.lookup name with
    | none => programForm.unknownCommand name
    | some form =>
      if name == "help" then readHelp rest
      else
        let inner ← form.readAll rest
        let request ← requestOf name inner
        let outer ← programForm.settle outer
        .ok {
          request
          isDebug := outer.has "debug" || inner.has "debug"
          isQuiet := outer.has "quiet" || inner.has "quiet"
          config := (inner.value? "config").or (outer.value? "config") }

end Recrawl.Cli
