/-!
Values of the data formats that the program reads and writes: JSON texts and
configuration files.
-/
namespace Recrawl

/-- A value of a data format. Tables keep their members in the order of the text, repeated keys
included. -/
inductive Value
  | null
  | bool (b : Bool)
  | integer (n : Int)
  | float (x : Float)
  | string (s : String)
  /-- A date or a time, with its text. -/
  | date (text : String)
  | list (items : List Value)
  | table (members : List (String × Value))

namespace Value

inductive Step
  /-- The value behind a key of a table. -/
  | member (key : String)
  /-- The key itself. -/
  | key (key : String)
  /-- The item of a list. -/
  | item (index : Nat)
  deriving DecidableEq, Repr

/-- The last member of a table with the given key. -/
def get? (value : Value) (key : String) : Option Value :=
  match value with
  | table members => (members.reverse.find? fun member => member.1 == key).map (·.2)
  | _ => none

def strings (items : List String) : Value :=
  list (items.map string)

end Value

end Recrawl
