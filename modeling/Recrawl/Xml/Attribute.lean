import Recrawl.Xml.Event

/-!
The attributes of a tag, read in one pass over what follows its name. A reading
that goes wrong reports the place as faulty and goes on behind it.
-/
namespace Recrawl.Xml

structure Attribute where
  name : Bytes
  value : Bytes
  deriving DecidableEq, Repr

namespace Attribute

/-- What the reading is inside of. Bytes read so far are kept last first. -/
inductive Mode
  | between
  | name (read : Bytes)
  /-- Blanks behind a name. -/
  | named (name : Bytes)
  /-- Behind the equals sign. -/
  | assigned (name : Bytes)
  | value (name : Bytes) (quote : UInt8) (read : Bytes)
  /-- Behind a fault, up to the next blank. -/
  | skipping
  deriving DecidableEq, Repr

/-- A reading in progress: the names seen, and the attributes found, latest first, with `none` for
each fault. -/
structure Reading where
  mode : Mode := .between
  seen : List Bytes := []
  found : List (Option Attribute) := []
  deriving DecidableEq, Repr

namespace Reading

/-- Takes the equals sign behind a name. With `unique`, a name seen before is a fault. -/
def assign (r : Reading) (unique : Bool) (name : Bytes) : Reading :=
  if unique && r.seen.contains name then ⟨.skipping, r.seen, none :: r.found⟩
  else ⟨.assigned name, name :: r.seen, r.found⟩

def step (unique : Bool) (r : Reading) (byte : UInt8) : Reading :=
  match r.mode with
  | .between => if isBlank byte then r else { r with mode := .name [byte] }
  | .name read =>
    if byte == 0x3D then r.assign unique read.reverse
    else if isBlank byte then { r with mode := .named read.reverse }
    else { r with mode := .name (byte :: read) }
  | .named name =>
    if byte == 0x3D then r.assign unique name
    else if isBlank byte then r
    else ⟨.name [byte], r.seen, none :: r.found⟩
  | .assigned name =>
    if isBlank byte then r
    else if byte == 0x22 || byte == 0x27 then { r with mode := .value name byte [] }
    else ⟨.skipping, r.seen, none :: r.found⟩
  | .value name quote read =>
    if byte == quote then ⟨.between, r.seen, some ⟨name, read.reverse⟩ :: r.found⟩
    else { r with mode := .value name quote (byte :: read) }
  | .skipping => if isBlank byte then { r with mode := .between } else r

/-- Takes the end of the tag, which is a fault inside an attribute. -/
def finish (r : Reading) : List (Option Attribute) :=
  match r.mode with
  | .between => r.found.reverse
  | .skipping => r.found.reverse
  | _ => (none :: r.found).reverse

end Reading

/-- The attributes of a tag, with `none` for each fault. -/
def readAll (unique : Bool) (bytes : Bytes) : List (Option Attribute) :=
  (bytes.foldl (Reading.step unique) {}).finish

end Attribute

/-- The attributes of a tag with distinct names; faulty places and repeated names are passed
over. -/
def Tag.distinctAttributes (tag : Tag) : List Attribute :=
  (Attribute.readAll true tag.attributes).filterMap id

/-- The attributes of a tag up to the first fault. -/
def Tag.leadingAttributes (tag : Tag) : List Attribute :=
  ((Attribute.readAll false tag.attributes).takeWhile Option.isSome).filterMap id

end Recrawl.Xml
