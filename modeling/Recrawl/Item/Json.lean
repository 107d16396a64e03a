import Recrawl.Item.Basic
import Recrawl.Json.Reader
import Recrawl.Json.Writer

/-!
The JSON form of metadata, links and records, as they are kept between two
visits. Metadata is a table from keys to lists of values; when it is read, a
value may also be a single string, and a repeated key gathers values. Links and
records are tables, and when they are read may also be lists of their members in
order.
-/
namespace Recrawl

/-- A table from each key to the list of its values. -/
def Metadata.toValue (m : Metadata) : Value :=
  .table (m.entries.map fun (key, values) => (key, Value.strings values))

def Link.toValue (link : Link) : Value :=
  .table [("target", .string link.target), ("metadata", link.metadata.toValue)]

def Record.toValue (record : Record) : Value :=
  .table [("url", .string record.url), ("status", .string record.status.name),
    ("metadata", record.metadata.toValue)]

def Record.toJson (record : Record) : String :=
  Json.render record.toValue

/-- The line of a record in a file with a record on each line. -/
def Record.line (record : Record) : String :=
  record.toJson ++ "\n"

namespace Json

def oneOrMany? : Value → Option (List String)
  | .string s => some [s]
  | .list items => items.mapM fun
    | .string s => some s
    | _ => none
  | _ => none

/-- What metadata should be, in a diagnostic. -/
def metadataForm : String := "a map of string keys to a string or a list of strings"

/-- Adds the values behind a key to the metadata read so far. -/
def metadataMember (depth : Nat) (read : Metadata) (key : String) : Reader Metadata := fun chars =>
  do
    let (found, rest) ← value depth chars
    match oneOrMany? found with
    | some values => .ok (values.foldl (fun m v => m.add key v) read, rest)
    | none => .error (.neitherForm "OneOrMany")

/-- Metadata inside `maxDepth - depth` other values. -/
def metadataAt (depth : Nat) : Reader Metadata := fun chars =>
  match skipBlanks chars with
  | '\x7b' :: rest => restOfTable false (metadataMember (depth - 1)) Metadata.empty rest
  | chars => wrongKind metadataForm chars

def statusNamed (name : String) : Except Fault Status :=
  match Status.ofName? name with
  | some status => .ok status
  | none => .error (.unknownName name (Status.all.map Status.name))

/-- A status: its name, or a table from its name to null. -/
def status : Reader Status := fun chars =>
  match skipBlanks chars with
  | '\x22' :: rest => do
    let (name, rest) ← restOfString false rest
    .ok (← statusNamed name, rest)
  | '\x7b' :: rest => do
    let (name, rest) ← string "variant identifier" rest
    let found ← statusNamed name
    let rest ← expect [':'] (skipBlanks rest)
    let rest ← match skipBlanks rest with
      | 'n' :: rest => expect "ull".toList rest
      | rest => wrongKind "unit" rest
    let rest ← expect ['\x7d'] (skipBlanks rest)
    .ok (found, rest)
  | _ => .error .illFormed

/-- A member of a record that must not have been read before. -/
def readOnce {α : Type} (key : String) (before : Option α) (reader : Reader α) :
    Reader (Option α) := fun chars =>
  match before with
  | some _ => .error (.repeatedMember key)
  | none => (reader chars).map fun (x, rest) => (some x, rest)

def required {α : Type} (key : String) : Option α → Except Fault α
  | some x => .ok x
  | none => .error (.missingMember key)

/-- The next item of a record written as a list, `index` items of which have been read. -/
def nextItem {α : Type} (form : String) (index : Nat) (reader : Reader α) : Reader α := fun chars =>
  match skipBlanks chars, index with
  | ']' :: _, _ => .error (.tooShort index form)
  | chars, 0 => reader chars
  | ',' :: rest, _ =>
    match skipBlanks rest with
    | ']' :: _ => .error .illFormed
    | rest => reader rest
  | _, _ => .error .illFormed

def endOfItems (chars : List Char) : Except Fault (List Char) :=
  expect [']'] (skipBlanks chars)

structure LinkParts where
  target : Option String := none
  metadata : Option Metadata := none

/-- Reads the member behind a key; other keys are passed over. -/
def LinkParts.member (parts : LinkParts) (key : String) : Reader LinkParts := fun chars =>
  if key == "target" then
    (readOnce key parts.target (string "a string") chars).map fun (x, rest) =>
      ({ parts with target := x }, rest)
  else if key == "metadata" then
    (readOnce key parts.metadata (metadataAt (maxDepth - 1)) chars).map fun (x, rest) =>
      ({ parts with metadata := x }, rest)
  else (skip chars).map fun (_, rest) => (parts, rest)

def link : Reader Link := fun chars =>
  match skipBlanks chars with
  | '\x7b' :: rest => do
    let (parts, rest) ← restOfTable false LinkParts.member {} rest
    .ok (⟨← required "target" parts.target, ← required "metadata" parts.metadata⟩, rest)
  | '[' :: rest => do
    let form := "struct Outlink with 2 elements"
    let (target, rest) ← nextItem form 0 (string "a string") rest
    let (metadata, rest) ← nextItem form 1 (metadataAt (maxDepth - 1)) rest
    .ok (⟨target, metadata⟩, ← endOfItems rest)
  | chars => wrongKind "struct Outlink" chars

structure RecordParts where
  url : Option String := none
  status : Option Status := none
  metadata : Option Metadata := none

/-- Reads the member behind a key; other keys are passed over. -/
def RecordParts.member (parts : RecordParts) (key : String) : Reader RecordParts := fun chars =>
  if key == "url" then
    (readOnce key parts.url (string "a string") chars).map fun (x, rest) =>
      ({ parts with url := x }, rest)
  else if key == "status" then
    (readOnce key parts.status Json.status chars).map fun (x, rest) =>
      ({ parts with status := x }, rest)
  else if key == "metadata" then
    (readOnce key parts.metadata (metadataAt (maxDepth - 1)) chars).map fun (x, rest) =>
      ({ parts with metadata := x }, rest)
  else (skip chars).map fun (_, rest) => (parts, rest)

def record : Reader Record := fun chars =>
  match skipBlanks chars with
  | '\x7b' :: rest => do
    let (parts, rest) ← restOfTable false RecordParts.member {} rest
    .ok (⟨← required "url" parts.url, ← required "status" parts.status,
      ← required "metadata" parts.metadata⟩, rest)
  | '[' :: rest => do
    let form := "struct StatusRecord with 3 elements"
    let (url, rest) ← nextItem form 0 (string "a string") rest
    let (status, rest) ← nextItem form 1 Json.status rest
    let (metadata, rest) ← nextItem form 2 (metadataAt (maxDepth - 1)) rest
    .ok (⟨url, status, metadata⟩, ← endOfItems rest)
  | chars => wrongKind "struct StatusRecord" chars

end Json

def Metadata.ofJson (text : String) : Except Json.Fault Metadata :=
  Json.complete (Json.metadataAt Json.maxDepth) text

def Status.ofJson (text : String) : Except Json.Fault Status :=
  Json.complete Json.status text

def Link.ofJson (text : String) : Except Json.Fault Link :=
  Json.complete Json.link text

def Record.ofJson (text : String) : Except Json.Fault Record :=
  Json.complete Json.record text

end Recrawl
