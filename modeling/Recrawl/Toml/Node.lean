import Recrawl.Toml.Cursor
import Recrawl.Value

/-!
The tables of a TOML document while they are put together. Every part knows where it
is in the text. A table can be given in several places only as far as none of them
repeats another.
-/
namespace Recrawl.Toml

structure Key where
  name : String
  span : Span
  deriving DecidableEq, Repr

inductive Form
  /-- It has a header of its own. -/
  | header
  /-- It is only named on the way to another table. -/
  | implied
  /-- It is only named on the way to a dotted key. -/
  | dotted
  /-- It is written as a value. -/
  | inline
  deriving DecidableEq, Repr

inductive Node
  | scalar (value : Value) (span : Span)
  | list (items : List Node) (span : Span)
  | table (form : Form) (members : List (Key × Node)) (span : Option Span)
  /-- A list of tables that have headers, the last one first. -/
  | tables (items : List Node)

/-- The members of a table, in the order of their first mention. -/
abbrev Members := List (Key × Node)

/-- Why a statement contradicts those before it. -/
inductive Conflict
  /-- A key has a meaning already; perhaps it is known in which table. -/
  | duplicate (key : String) (table : Option (List String))
  /-- What is at the end of a path is no table. -/
  | notTable (path : List String) (kind : String)
  deriving DecidableEq, Repr

def Conflict.message : Conflict → String
  | duplicate key none => "duplicate key `" ++ key ++ "`"
  | duplicate key (some []) => "duplicate key `" ++ key ++ "` in document root"
  | duplicate key (some path) =>
    "duplicate key `" ++ key ++ "` in table `" ++ ".".intercalate path ++ "`"
  | notTable path kind =>
    "dotted key `" ++ ".".intercalate path ++ "` attempted to extend non-table type (" ++ kind ++
      ")"

/-- A bare character of a key, that is one that needs no quotes. -/
def isKeyChar (c : Char) : Bool := c.isAlphanum || c == '_' || c == '-'

/-- A character with an escape where a string between double quotes needs one. -/
def escapeChar (c : Char) : String :=
  match c with
  | '\x08' => "\\b"
  | '\t' => "\\t"
  | '\n' => "\\n"
  | '\x0c' => "\\f"
  | '\r' => "\\r"
  | '\x22' => "\\\x22"
  | '\\' => "\\\\"
  | c =>
    if 0x20 ≤ c.toNat && c.toNat != 0x7F then c.toString
    else
      let digits := (Nat.toDigits 16 c.toNat).map Char.toUpper
      "\\u" ++ String.ofList (List.replicate (4 - digits.length) '0' ++ digits)

/-- The plainest way to write a key: bare, between double quotes without escapes, between single
quotes, or with escapes. -/
def Key.written (key : Key) : String :=
  let chars := key.name.toList
  let isControl (c : Char) : Bool := (c.toNat < 0x20 && c != '\t') || c.toNat == 0x7F
  if !chars.isEmpty && chars.all isKeyChar then key.name
  else if chars.all fun c => !isControl c && c != '\\' && c != '\x22' then
    "\x22" ++ String.join (chars.map escapeChar) ++ "\x22"
  else if chars.all fun c => !isControl c && c != '\x27' then "'" ++ key.name ++ "'"
  else "\x22" ++ String.join (chars.map escapeChar) ++ "\x22"

namespace Node

def kind : Node → String
  | scalar (.string _) _ => "string"
  | scalar (.integer _) _ => "integer"
  | scalar (.float _) _ => "float"
  | scalar (.bool _) _ => "boolean"
  | scalar _ _ => "datetime"
  | list _ _ => "array"
  | table .inline _ _ => "inline table"
  | table _ _ _ => "table"
  | tables _ => "array of tables"

/-- The part of the text that is a table, if it is one part. -/
def tableSpan? : Node → Option Span
  | table _ _ span => span
  | _ => none

/-- The part of the text that a node covers, if it is one part. -/
def span? : Node → Option Span
  | scalar _ span => some span
  | list _ span => some span
  | table _ _ span => span
  | tables items => do
    let first ← items.getLast?.bind tableSpan?
    let last ← items.head?.bind tableSpan?
    some ⟨first.start, last.stop⟩

end Node

inductive Owner
  /-- A table written as a value. -/
  | inline
  /-- The table with a header; the root has no names. -/
  | headed (path : List String)

namespace Members

/-- The key with a name, as it was first written. -/
def keyAt? (name : String) (members : Members) : Option Key :=
  (members.find? fun member => member.1.name == name).map (·.1)

def nodeAt? (name : String) (members : Members) : Option Node :=
  (members.find? fun member => member.1.name == name).map (·.2)

/-- The members with the node of one of them replaced, or with one more. -/
def put (key : Key) (node : Node) : Members → Members
  | [] => [(key, node)]
  | (k, n) :: rest => if k.name == key.name then (k, node) :: rest else (k, n) :: put key node rest

/-- What may not be entered on the way to a dotted key. -/
def notEntered (owner : Owner) (passed : List String) (step : Key) (node : Node) : Conflict :=
  match owner, node with
  | .inline, .table _ _ _ => .duplicate step.name none
  | _, .table .header _ _ => .duplicate step.name none
  | _, node => .notTable (passed ++ [step.name]) node.kind

/-- Gives a value to a dotted key, relative to a table that takes new keys if `mayAdd`, and that
stands behind the names in `passed`. Tables on the way that have headers of their own take none,
and values are no tables. -/
def assign (owner : Owner) (mayAdd : Bool) (passed : List String) :
    (path : List Key) → (key : Key) → Node → Members → Except Conflict Members
  | [], key, node, members =>
    if !mayAdd then .error (.duplicate key.name none)
    else if (nodeAt? key.name members).isSome then
      .error (.duplicate key.name (match owner with
        | .inline => none
        | .headed path => some path))
    else .ok (members ++ [(key, node)])
  | step :: path, key, node, members =>
    let passed' := passed ++ [step.name]
    match nodeAt? step.name members with
    | none => do
      let inner ← assign owner true passed' path key node []
      .ok (put step (.table .dotted inner none) members)
    | some (.table .dotted inner span) => do
      let inner ← assign owner true passed' path key node inner
      .ok (put step (.table .dotted inner span) members)
    | some (.table .implied inner span) => do
      let inner ← assign owner false passed' path key node inner
      .ok (put step (.table .implied inner span) members)
    | some (.tables (.table form inner span :: earlier)) => do
      let inner ← assign owner false passed' path key node inner
      .ok (put step (.tables (.table form inner span :: earlier)) members)
    | some other => .error (notEntered owner passed step other)

section Tables

variable {ε : Type} (refuse : Conflict → ε)

/-- Changes the table at the end of a path, which goes on from the names in `passed`. Lists of
tables are entered at their last item. -/
def update (change : Members → Except ε Members) (passed : List String) :
    (path : List Key) → Members → Except ε Members
  | [], members => change members
  | step :: path, members =>
    let passed' := passed ++ [step.name]
    match nodeAt? step.name members with
    | none => do
      let inner ← update change passed' path []
      .ok (put step (.table .implied inner none) members)
    | some (.tables (.table form inner span :: earlier)) => do
      let inner ← update change passed' path inner
      .ok (put step (.tables (.table form inner span :: earlier)) members)
    | some (.table form inner span) =>
      if form == .inline then .error (refuse (.notTable passed' "inline table"))
      else do
        let inner ← update change passed' path inner
        .ok (put step (.table form inner span) members)
    | some other => .error (refuse (.notTable passed' other.kind))

/-- Adds a table that has a header, filled by `fill`, to the table at a path. Only a table without
a header of its own may be there before; it takes its place behind the others. -/
def addTable (fill : Members → Except ε Members) (span : Span) (path : List String)
    (key : Key) (members : Members) : Except ε Members :=
  let add (inner : Members) (others : Members) : Except ε Members := do
    .ok (others ++ [(key, .table .header (← fill inner) (some span))])
  match nodeAt? key.name members with
  | none => add [] members
  | some (.table .implied inner _) => add inner (members.filter (·.1.name != key.name))
  | some _ => .error (refuse (.duplicate key.written (some path)))

/-- Adds a table to a list of tables, filled by `fill`, in the table at a path. -/
def addItem (fill : Members → Except ε Members) (span : Span) (path : List String)
    (key : Key) (members : Members) : Except ε Members :=
  let add (items : List Node) : Except ε Members := do
    .ok (put key (.tables (.table .header (← fill []) (some span) :: items)) members)
  match nodeAt? key.name members with
  | none => add []
  | some (.tables items) => add items
  | some _ => .error (refuse (.duplicate key.written (some path)))

end Tables

end Members

mutual

def Node.toValue : Node → Value
  | .scalar v _ => v
  | .list items _ => .list (itemValues items)
  | .table _ members _ => .table (memberValues members)
  | .tables items => .list (itemValues items).reverse

def memberValues : List (Key × Node) → List (String × Value)
  | [] => []
  | (key, node) :: rest => (key.name, node.toValue) :: memberValues rest

def itemValues : List Node → List Value
  | [] => []
  | node :: rest => node.toValue :: itemValues rest

end

/-- The part of the text for a part of a value: its own, or else the one of its key. -/
def Node.locate : (path : List Value.Step) → (default : Option Span) → Node → Option Span
  | [], default, node => node.span?.or default
  | .key name :: _, default, .table _ members _ =>
    ((Members.keyAt? name members).map Key.span).or default
  | .member name :: path, default, .table _ members _ =>
    match Members.nodeAt? name members with
    | some inner => inner.locate path (((Members.keyAt? name members).map Key.span).or default)
    | none => default
  | .item index :: path, default, .list items _ =>
    match items[index]? with
    | some inner => inner.locate path default
    | none => default
  | .item index :: path, default, .tables items =>
    match items.reverse[index]? with
    | some inner => inner.locate path default
    | none => default
  | _, default, _ => default

end Recrawl.Toml
