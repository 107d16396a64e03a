import Recrawl.Settings.Basic
import Recrawl.Settings.Fault

/-!
Reading settings from a value of a data format. A section is a table by the names
of its settings, or a list of them in order; what is missing keeps its default,
and names that are not settings do not count. The first part that is at fault is the
reason for refusing a value.
-/
namespace Recrawl.Settings

structure Dialect where
  /-- A list may not have more items than the section has settings. -/
  exactLength : Bool
  /-- Checks the value behind the name of a choice, which stands for nothing. -/
  unit : Reader Unit

namespace Dialect

def json : Dialect where
  exactLength := true
  unit
    | .null => .ok ()
    | value => mismatch "unit" value

def scalarKind : Value → String
  | .string _ => "string"
  | .integer _ => "integer"
  | .float _ => "float"
  | .bool _ => "boolean"
  | _ => "datetime"

def configuration : Dialect where
  exactLength := false
  unit
    | .list [] => .ok ()
    | .table [] => .ok ()
    | .list _ => refuse "expected empty array"
    | .table _ => refuse "expected empty table"
    | value => refuse ("expected table, found " ++ scalarKind value)

end Dialect

def readBool : Reader Bool
  | .bool b => .ok b
  | value => mismatch "a boolean" value

def readString : Reader String
  | .string s => .ok s
  | value => mismatch "a string" value

/-- The items of a list, from the index `index` on. -/
def readList {α : Type} (item : Reader α) : (index : Nat) → List Value → Except Fault (List α)
  | _, [] => .ok []
  | index, value :: rest => do
    let a ← under (.item index) (item value)
    let others ← readList item (index + 1) rest
    .ok (a :: others)

def readItems {α : Type} (item : Reader α) : Reader (List α)
  | .list items => readList item 0 items
  | value => mismatch "a sequence" value

def readStrings : Reader (List String) := readItems readString

def readInt : Reader Int
  | .integer n =>
    if -0x8000000000000000 ≤ n && n < 0x8000000000000000 then .ok n
    else outOfRange "i64" (.integer n)
  | value => mismatch "i64" value

/-- An integer of 64 bits with a sign, as a word. -/
def readWord : Reader Int64 := fun value => (readInt value).map Int64.ofInt

def readNat : Reader Nat
  | .integer n =>
    if 0 ≤ n && n < 0x10000000000000000 then .ok n.toNat else outOfRange "usize" (.integer n)
  | value => mismatch "usize" value

def readFloat : Reader Float
  | .float x => .ok x
  | .integer n => .ok (Float.ofInt n)
  | value => mismatch "f64" value

def readName {α : Type} (all : List α) (name : α → String) (text : String) : Except Fault α :=
  match all.find? fun a => name a == text with
  | some a => .ok a
  | none => unknownChoice text (all.map name)

/-- A choice by its name, alone or in front of nothing. -/
def readChoice {α : Type} (dialect : Dialect) (all : List α) (name : α → String) : Reader α
  | .string text => readName all name text
  | .table [(key, value)] => do
    let a ← under (.key key) (readName all name key)
    under (.member key) (dialect.unit value)
    .ok a
  | .table [] => refuse "wanted exactly 1 element, found 0 elements"
  | .table _ => refuse "wanted exactly 1 element, more than 1 element"
  | _ => refuse "wanted string or table"

/-- A setting of a section: its name, and how it is changed by a value. -/
structure Field (α : Type) where
  name : String
  set : Value → α → Except Fault α

/-- A setting that is read by `read` and stored by `store`. -/
def Field.of {α β : Type} (name : String) (read : Reader β) (store : β → α → α) : Field α :=
  ⟨name, fun value settings => (read value).map fun b => store b settings⟩

/-- Stores the items of a list in order, from the index `index` on. -/
def storeItems {α : Type} (dialect : Dialect) : (index : Nat) → List (Field α) → List Value → α →
    Except Fault α
  | _, _, [], current => .ok current
  | index, [], _ :: _, current =>
    if dialect.exactLength then refuse s!"invalid length {index + 1}" else .ok current
  | index, field :: fields, item :: items, current => do
    let current ← under (.item index) (field.set item current)
    storeItems dialect (index + 1) fields items current

/-- The members of a table whose keys do not come again. -/
def lastMembers : List (String × Value) → List (String × Value)
  | [] => []
  | (key, value) :: rest =>
    if rest.any (·.1 == key) then lastMembers rest else (key, value) :: lastMembers rest

/-- Stores a member of a table, if it is a setting. -/
def storeMember {α : Type} (fields : List (Field α)) (current : α) (member : String × Value) :
    Except Fault α :=
  match fields.find? fun field => field.name == member.1 with
  | some field => under (.member member.1) (field.set member.2 current)
  | none => .ok current

/-- Reads a section over its default. A date counts as a table without settings. -/
def readSection {α : Type} (dialect : Dialect) (name : String) (fields : List (Field α))
    (default : α) : Reader α
  | .table members => (lastMembers members).foldlM (storeMember fields) default
  | .list items => storeItems dialect 0 fields items default
  | .date _ => .ok default
  | value => mismatch s!"struct {name}" value

def sitemapFields : List (Field SitemapSettings) := [
  .of "sniff_content" readBool fun b s => { s with sniffsContent := b },
  .of "max_offset_guess" readNat fun n s => { s with peekLimit := n },
  .of "filter_hours_since_modified" readInt fun n s => { s with recentHours := n },
  .of "schedule_delay_minutes" readWord fun n s => { s with delayMinutes := n },
  .of "allow_partial" readBool fun b s => { s with allowPartial := b }]

def feedFields : List (Field FeedSettings) := [
  .of "max_offset_guess" readNat fun n s => { s with peekLimit := n }]

def linkFields : List (Field LinkSettings) := [
  .of "url_filters" readStrings fun names s => { s with filters := names },
  .of "transfer" readStrings fun keys s => { s with inherited := keys },
  .of "track_path" readBool fun b s => { s with tracksPath := b },
  .of "track_depth" readBool fun b s => { s with tracksDepth := b }]

def filterFields : List (Field FilterSettings) := [
  .of "parse" readStrings fun names s => { s with names := names },
  .of "signature_key" readString fun key s => { s with signatureKey := key },
  .of "signature_copy_key" readString fun key s => { s with copyKey := key }]

/-- A rule of custom intervals in the making: three of its four settings have to be given. -/
structure CustomDraft where
  key : Option String := none
  value : Option String := none
  interval : Option Int64 := none
  fetchErrorInterval : Option Int64 := none

/-- The rule, if everything needed is given. A list is too short then, and a table lacks a member. -/
def CustomDraft.complete (draft : CustomDraft) (source : Value) : Except Fault CustomInterval :=
  let missing (name : String) : Except Fault CustomInterval :=
    match source with
    | .list items =>
      refuse s!"invalid length {items.length}, expected struct CustomInterval with 4 elements"
    | _ => refuse s!"missing field `{name}`"
  match draft.key, draft.value, draft.interval with
  | none, _, _ => missing "key"
  | _, none, _ => missing "value"
  | _, _, none => missing "interval"
  | some key, some value, some interval => .ok ⟨key, value, interval, draft.fetchErrorInterval⟩

def readOptionalWord : Reader (Option Int64)
  | .null => .ok none
  | value => (readWord value).map some

def customFields : List (Field CustomDraft) := [
  .of "key" readString fun key d => { d with key := some key },
  .of "value" readString fun value d => { d with value := some value },
  .of "interval" readWord fun n d => { d with interval := some n },
  .of "fetch_error_interval" readOptionalWord fun n d => { d with fetchErrorInterval := n }]

def readCustom (dialect : Dialect) : Reader CustomInterval := fun value => do
  let draft ← readSection dialect "CustomInterval" customFields {} value
  draft.complete value

def scheduleFields (dialect : Dialect) : List (Field ScheduleSettings) := [
  .of "default_interval" readWord fun n s => { s with defaultInterval := n },
  .of "fetch_error_interval" readWord fun n s => { s with fetchErrorInterval := n },
  .of "error_interval" readWord fun n s => { s with errorInterval := n },
  .of "min_interval" readWord fun n s => { s with minInterval := n },
  .of "max_interval" readWord fun n s => { s with maxInterval := n },
  .of "set_last_modified" readBool fun b s => { s with setsLastModified := b },
  .of "custom" (readItems (readCustom dialect)) fun rules s => { s with custom := rules }]

def rotationFields (dialect : Dialect) : List (Field RotationSettings) := [
  .of "max_size" readFloat fun x s => { s with maxSize := x },
  .of "size_unit" (readChoice dialect SizeUnit.all SizeUnit.name) fun u s =>
    { s with sizeUnit := u },
  .of "time_interval" readFloat fun x s => { s with timeInterval := x },
  .of "time_unit" (readChoice dialect TimeUnit.all TimeUnit.name) fun u s =>
    { s with timeUnit := u }]

def workerFields : List (Field WorkerSettings) := [
  .of "default" readNat fun n s => { s with count := n }]

def settingsFields (dialect : Dialect) : List (Field Settings) := [
  .of "sitemap" (readSection dialect "SitemapConfig" sitemapFields {}) fun x s =>
    { s with sitemap := x },
  .of "feed" (readSection dialect "FeedConfig" feedFields {}) fun x s => { s with feed := x },
  .of "outlinks" (readSection dialect "OutlinksConfig" linkFields {}) fun x s =>
    { s with links := x },
  .of "filters" (readSection dialect "FiltersConfig" filterFields {}) fun x s =>
    { s with filters := x },
  .of "scheduler" (readSection dialect "SchedulerConfig" (scheduleFields dialect) {}) fun x s =>
    { s with schedule := x },
  .of "rotation" (readSection dialect "RotationConfig" (rotationFields dialect) {}) fun x s =>
    { s with rotation := x },
  .of "workers" (readSection dialect "WorkersConfig" workerFields {}) fun x s =>
    { s with workers := x }]

def read (dialect : Dialect) : Reader Settings :=
  readSection dialect "Config" (settingsFields dialect) {}

end Recrawl.Settings
