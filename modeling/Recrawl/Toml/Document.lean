import Recrawl.Toml.Assignment

/-!
Reading TOML documents. A document is a list of statements, which give a value to
a key or begin a table; the statements together make up one table. The first fault
in the text is the one that counts, be it in the form of a statement or in what it
says.
-/
namespace Recrawl.Toml

/-- The header of a table, or of an item of a list of tables. -/
structure Header where
  isItem : Bool
  key : List Key
  span : Span

inductive Statement
  | assign (assignment : Assignment)
  | header (header : Header)

def takeStatementEnd : Reader Unit := fun c =>
  expecting ["newline", "`#`"] (takeLineEnd c)

def takeHeader : Reader Header := fun c =>
  within "table header" (commit (
    if c.rest.length < 2 then refuse c
    else do
      let isItem := ['[', '['].isPrefixOf c.rest
      let close := if isItem then "]]" else "]"
      let (key, next) ← takeKey (c.skip close.length)
      let (_, next) ← expecting ["`.`", s!"`{close}`"] (takeText close.toList next)
      let (_, rest) ← takeStatementEnd next
      .ok (⟨isItem, key, c.spanTo next⟩, rest)))

def takeAssignmentLine : Reader Assignment := fun c => do
  let (assignment, c) ← commit (takeAssignment (takeValue maxDepth) c)
  let (_, c) ← commit (takeStatementEnd c)
  .ok (assignment, c)

def takeLine : Reader (Option Statement) := fun c =>
  match c.rest with
  | [] => .ok (none, c)
  | '#' :: _ => (takeLineEnd c).map fun (_, c) => (none, c)
  | '[' :: _ => (takeHeader c).map fun (header, c) => (some (.header header), c)
  | '\n' :: _ => takeLineEnd c |>.map fun (_, c) => (none, c)
  | '\r' :: _ => takeLineEnd c |>.map fun (_, c) => (none, c)
  | _ => (takeAssignmentLine c).map fun (assignment, c) => (some (.assign assignment), c)

/-- The statements of a document up to the first fault in their form. -/
def statements : (bound : Nat) → Cursor → List Statement × Option Fault
  | 0, _ => ([], none)
  | bound + 1, c =>
    let c := skipBlanks c
    if c.rest.isEmpty then ([], none)
    else
      match takeLine c with
      | .error fault => ([], some fault)
      | .ok (statement, next) =>
        let (rest, fault) := statements bound next
        (statement.toList ++ rest, fault)

/-- A table of a document: its header, and what it holds. -/
structure Section where
  header : Header
  assignments : List Assignment

/-- The assignments at the beginning of a list of statements, and the tables behind them. -/
def sections : List Statement → List Assignment × List Section
  | [] => ([], [])
  | .assign assignment :: rest =>
    let (assignments, tables) := sections rest
    (assignment :: assignments, tables)
  | .header header :: rest =>
    let (assignments, tables) := sections rest
    ([], ⟨header, assignments⟩ :: tables)

/-- The place behind the last of some assignments. -/
def endOf (default : Nat) (assignments : List Assignment) : Nat :=
  ((assignments.getLast?.bind fun a => a.node.span?).map Span.stop).getD default

/-- Gives values to keys of a table. A fault is where the assignment begins. -/
def fill (path : List String) (assignments : List Assignment) (members : Members) :
    Except Fault Members :=
  assignments.foldlM (fun members a =>
    (a.apply (.headed path) members).mapError fun conflict =>
      { place := a.place, reason := some conflict.message }) members

def addSection (root : Members) (table : Section) : Except Fault Members :=
  let header := table.header
  let path := header.key.map Key.name
  let span : Span := ⟨header.span.start, endOf header.span.stop table.assignments⟩
  let refuse (conflict : Conflict) : Fault :=
    { place := span.start, subject := some "table header", reason := some conflict.message }
  let add := if header.isItem then Members.addItem refuse else Members.addTable refuse
  match header.key.getLast? with
  | some key =>
    let change := add (fill path table.assignments) span path.dropLast key
    root.update refuse change [] header.key.dropLast
  | none => .ok root

/-- The place behind a byte order mark, which may begin a text. -/
def skipMark (c : Cursor) : Cursor :=
  if c.rest.head?.any fun x => x.toNat == 0xFEFF then c.skip 1 else c

def read (text : String) : Except Fault Node := do
  let start : Cursor := skipMark ⟨0, text.toList⟩
  let (list, fault) := statements (start.rest.length + 1) start
  let (assignments, tables) := sections list
  let root ← fill [] assignments []
  let root ← tables.foldlM addSection root
  match fault with
  | some fault => .error fault
  | none => .ok (.table .header root (some ⟨0, endOf 0 assignments⟩))

end Recrawl.Toml
