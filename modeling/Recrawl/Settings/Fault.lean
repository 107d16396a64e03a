import Recrawl.Number.Binary64
import Recrawl.Text.Quoted
import Recrawl.Value

/-!
Why a value gives no settings: which part of it is at fault, and what is wrong with
that part.
-/
namespace Recrawl.Settings

structure Fault where
  /-- The way from the value to the part. -/
  place : List Value.Step := []
  message : String
  deriving DecidableEq, Repr

abbrev Reader (α : Type) := Value → Except Fault α

section Results

variable {α : Type}

def refuse (message : String) : Except Fault α := .error { message }

def under (step : Value.Step) (result : Except Fault α) : Except Fault α :=
  result.mapError fun fault => { fault with place := step :: fault.place }

/-- A float with at least one digit behind its point. -/
def floatText (x : Float) : String :=
  let text := Number.Layout.plain.write x
  if x.isFinite && !text.contains '.' then text ++ ".0" else text

/-- What a value is, in a diagnostic. A date counts as a map. -/
def describe : Value → String
  | .null => "null"
  | .bool b => "boolean `" ++ (if b then "true" else "false") ++ "`"
  | .integer n => s!"integer `{n}`"
  | .float x => s!"floating point `{floatText x}`"
  | .string s => "string " ++ Text.Quoted.quote s
  | .list _ => "sequence"
  | .table _ => "map"
  | .date _ => "map"

/-- The value is not of the expected kind. -/
def mismatch (expected : String) (value : Value) : Except Fault α :=
  refuse ("invalid type: " ++ describe value ++ ", expected " ++ expected)

def outOfRange (expected : String) (value : Value) : Except Fault α :=
  refuse ("invalid value: " ++ describe value ++ ", expected " ++ expected)

/-- The name of a choice is none of those that there are. -/
def unknownChoice (name : String) (names : List String) : Except Fault α :=
  refuse ("unknown variant `" ++ name ++ "`, expected one of " ++
    ", ".intercalate (names.map fun n => "`" ++ n ++ "`"))

end Results

end Recrawl.Settings
