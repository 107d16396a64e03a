import Recrawl.Toml.Moment
import Recrawl.Toml.Node
import Recrawl.Toml.Number
import Recrawl.Toml.Quoted

/-!
Keys, values, and assignments of a value to a key, which stand in documents and in
inline tables.
-/
namespace Recrawl.Toml

/-- How many parts a key may have, and how deep lists and inline tables may be nested. -/
def maxDepth : Nat := 79

def tooDeep : String := "recursion limit exceeded"

def takeSimpleKey : Reader Key := fun c =>
  let key (name : String) (next : Cursor) : Key × Cursor := (⟨name, c.spanTo next⟩, next)
  match c.rest with
  | '\x22' :: _ => (takeLineString c).map fun (name, next) => key name next
  | '\x27' :: _ => (takeLineString c).map fun (name, next) => key name next
  | _ =>
    let name := c.rest.takeWhile isKeyChar
    if name.isEmpty then refuse c else .ok (key (String.ofList name) (c.skip name.length))

def takeSpacedKey : Reader Key := fun c => do
  let (key, c) ← takeSimpleKey (skipBlanks c)
  .ok (key, skipBlanks c)

/-- Further parts of a key, each behind a dot. -/
def takeMoreKeys : (bound : Nat) → (acc : List Key) → Reader (List Key)
  | 0, acc, c => .ok (acc.reverse, c)
  | bound + 1, acc, c => do
    match c.rest with
    | '.' :: _ =>
      match ← attempt (takeSpacedKey (c.skip 1)) with
      | some (key, next) => takeMoreKeys bound (key :: acc) next
      | none => .ok (acc.reverse, c)
    | _ => .ok (acc.reverse, c)

def takeKey : Reader (List Key) := fun c => do
  let (keys, next) ← within "key" (do
    let (key, next) ← takeSpacedKey c
    takeMoreKeys c.rest.length [key] next)
  if maxDepth < keys.length then .error { place := c.place, reason := some tooDeep }
  else .ok (keys, next)

/-- A value for a key, and the place where the key begins. -/
structure Assignment where
  place : Nat
  key : List Key
  node : Node

/-- A key with a value, and blanks behind it. -/
def takeAssignment (value : Reader Node) : Reader Assignment := fun c => do
  let (key, next) ← takeKey c
  commit do
    let (_, next) ← expecting ["`.`", "`=`"] (takeText ['='] next)
    let (node, next) ← value (skipBlanks next)
    .ok (⟨c.place, key, node⟩, skipBlanks next)

def Assignment.apply (owner : Owner) (a : Assignment) (members : Members) :
    Except Conflict Members :=
  match a.key.getLast? with
  | some key => members.assign owner true [] a.key.dropLast key a.node
  | none => .ok members

/-- A value that has to be a string, because nothing else begins like this. -/
def refuseString {α : Type} (c : Cursor) : Except Fault α :=
  expecting ["`\x22`", "`'`"] (within "string" (refuse c))

def takeWord (word : String) (value : Bool) : Reader Value := fun c =>
  if word.toList.isPrefixOf c.rest then .ok (.bool value, c.skip word.length)
  else commit (refuseString c)

def takeScalar : Reader Value := fun c =>
  match c.rest with
  | [] => refuse c
  | first :: _ =>
    if first == '\x22' || first == '\x27' then
      (takeString c).map fun (text, next) => (.string text, next)
    else if first == '+' || first == '-' || Number.Decimal.isDigit first then
      orTry (takeMoment c) fun _ => orTry (takeFloat c) fun _ => takeInteger c
    else if first == '_' then expecting ["leading digit"] (takeInteger c)
    else if first == '.' then expecting ["leading digit"] (takeFloat c)
    else if first == 't' then takeWord "true" true c
    else if first == 'f' then takeWord "false" false c
    else orTry (takeSpecialFloat c) fun _ => refuseString c

/-- An item of a list, with blanks, line breaks and comments around it. -/
def takeItem (value : Reader Node) : Reader Node := fun c => do
  let (_, c) ← takeGap (c.rest.length + 1) c
  let (node, c) ← value c
  let (_, c) ← takeGap (c.rest.length + 1) c
  .ok (node, c)

/-- The end of a list with the items `acc`, the last one of which is first. -/
def closeList (acc : List Node) : Reader (List Node) := fun c => do
  let (_, c) ← expecting ["`]`"] (within "array" (commit (takeText [']'] c)))
  .ok (acc.reverse, c)

/-- The rest of a list behind its bracket or a comma, and behind the items `acc`. -/
def takeItems (value : Reader Node) : (bound : Nat) → (acc : List Node) → Reader (List Node)
  | 0, _, c => refuse c
  | bound + 1, acc, c => do
    match ← attempt (takeItem value c) with
    | some (node, next) =>
      match next.rest with
      | ',' :: _ => takeItems value bound (node :: acc) (next.skip 1)
      | _ => closeList (node :: acc) next
    | none =>
      let (_, next) ← commit (takeGap (c.rest.length + 1) c)
      closeList acc next

/-- Further assignments of an inline table, each behind a comma. -/
def takeMoreAssignments (value : Reader Node) : (bound : Nat) → (acc : List Assignment) →
    Reader (List Assignment)
  | 0, acc, c => .ok (acc.reverse, c)
  | bound + 1, acc, c => do
    match c.rest with
    | ',' :: _ =>
      match ← attempt (takeAssignment value (c.skip 1)) with
      | some (assignment, next) => takeMoreAssignments value bound (assignment :: acc) next
      | none => .ok (acc.reverse, c)
    | _ => .ok (acc.reverse, c)

/-- The members of an inline table up to its end. A conflict between them is a fault at their
beginning. -/
def takeMembers (value : Reader Node) : Reader Members := fun c => do
  let (assignments, next) ← match ← attempt (takeAssignment value c) with
    | some (assignment, next) => takeMoreAssignments value c.rest.length [assignment] next
    | none => .ok ([], c)
  match assignments.foldlM (fun members a => a.apply .inline members) [] with
  | .error conflict =>
    .error { place := c.place, reason := some conflict.message, isFinal := true }
  | .ok members =>
    let (_, next) ← expecting ["`\x7d`"] (within "inline table"
      (commit (takeText ['\x7d'] (skipBlanks next))))
    .ok (members, next)

/-- A value with at most `depth` lists and inline tables inside each other. -/
def takeValue : (depth : Nat) → Reader Node
  | depth, c =>
    match c.rest, depth with
    | '[' :: _, 0 => .error { place := c.place, reason := some tooDeep, isFinal := true }
    | '\x7b' :: _, 0 => .error { place := c.place, reason := some tooDeep, isFinal := true }
    | '[' :: rest, depth + 1 =>
      (takeItems (takeValue depth) (rest.length + 1) [] (c.skip 1)).map fun (items, next) =>
        (.list items (c.spanTo next), next)
    | '\x7b' :: _, depth + 1 =>
      (takeMembers (takeValue depth) (c.skip 1)).map fun (members, next) =>
        (.table .inline members (some (c.spanTo next)), next)
    | _, _ => (takeScalar c).map fun (value, next) => (.scalar value (c.spanTo next), next)

end Recrawl.Toml
