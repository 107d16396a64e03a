import Recrawl.Text.Columns

/-!
Tables with a frame of lines. Each column is as wide as its widest cell, and a cell
takes as many lines as its text has.
-/
namespace Recrawl.Text.Table

def cellLines (cell : String) : List String :=
  (cell.toList.splitOnP (· == '\n')).map String.ofList

def cellWidth (cell : String) : Nat :=
  ((cellLines cell).map Text.columns).foldl max 0

def widths (rows : List (List String)) : List Nat :=
  rows.foldl (fun widths row =>
    let own := row.map cellWidth
    let shared := List.zipWith max widths own
    shared ++ widths.drop shared.length ++ own.drop shared.length) []

/-- How a line of a frame is drawn: its ends, and what is between them. -/
structure Rule where
  left : String
  line : String
  joint : String
  right : String

def top : Rule := ⟨"╭", "─", "┬", "╮"⟩

def belowHeader : Rule := ⟨"╞", "═", "╪", "╡"⟩

def between : Rule := ⟨"├", "╌", "┼", "┤"⟩

def bottom : Rule := ⟨"╰", "─", "┴", "╯"⟩

/-- A line of a frame for columns of the given widths, each with a blank on both sides. -/
def Rule.draw (rule : Rule) (widths : List Nat) : String :=
  rule.left ++
    rule.joint.intercalate (widths.map fun w => String.join (List.replicate (w + 2) rule.line)) ++
    rule.right

def pad (width : Nat) (text : String) : String :=
  text ++ String.ofList (List.replicate (width - Text.columns text) ' ')

def rowLines (widths : List Nat) (row : List String) : List String :=
  let cells := row.map cellLines
  let height := (cells.map List.length).foldl max 0
  (List.range height).map fun i =>
    "│" ++ "┆".intercalate (List.zipWith (fun w lines => " " ++ pad w (lines.getD i "") ++ " ")
      widths cells) ++ "│"

def lines (header : List String) (rows : List (List String)) : List String :=
  let widths := widths (header :: rows)
  let body := (rows.map (rowLines widths)).intersperse [between.draw widths]
  top.draw widths :: rowLines widths header ++ belowHeader.draw widths :: body.flatten ++
    [bottom.draw widths]

def render (header : List String) (rows : List (List String)) : String :=
  "\n".intercalate (lines header rows)

end Recrawl.Text.Table
