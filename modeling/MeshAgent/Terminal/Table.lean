import MeshAgent.Number.Binary64
import MeshAgent.Terminal.Lines
import MeshAgent.Terminal.Markup

/-!
# Tables on a terminal

Columns without lines between them. A column is as wide as its widest cell; if all of them together
are too wide, the widest ones are made narrower first, all of them by the same amount.
-/
namespace MeshAgent

/-- A column with marked-up texts. -/
structure Column where
  heading : String
  rightAligned : Bool := false
  cells : List String
deriving DecidableEq, Repr

namespace Table

/-- Blanks on each side of a cell. -/
def margin : Nat := 2

/-- Cells that a text takes in a column, up to a limit. -/
def demand (limit : Nat) (text : List Char) : Nat :=
  if limit ≤ 2 * margin then limit else min limit (2 * margin + Lines.longest text)

/-- Cells that a column takes. -/
def columnWidth (limit : Nat) (texts : List (List Char)) : Nat :=
  (texts.map (demand limit)).foldl max 0

/-- Takes `total` from the widths that are equal to `widest`, `share` of them, but not more than
`most` from each. -/
def reduce (widest most : Nat) : Nat → Nat → List Nat → List Nat
  | _, _, [] => []
  | total, share, w :: ws =>
    if w = widest ∧ 0 < share then
      let taken := min most (Binary64.roundDiv total share)
      (w - taken) :: reduce widest most (total - taken) (share - 1) ws
    else w :: reduce widest most total share ws

def total (widths : List Nat) : Nat := widths.foldl (fun n w => n + w) 0

/-- Makes the widest columns as narrow as the next ones, until all fit. -/
def collapse (limit : Nat) : Nat → List Nat → List Nat
  | 0, widths => widths
  | fuel + 1, widths =>
    let excess := total widths - limit
    if excess = 0 then widths
    else
      let widest := widths.foldl max 0
      let next := (widths.filter (· ≠ widest)).foldl max 0
      let share := (widths.filter (· = widest)).length
      collapse limit fuel (reduce widest (min excess (widest - next)) excess share widths)

/-- Widths of columns that fit together. -/
def columnWidths (limit : Nat) (columns : List (List (List Char))) : List Nat :=
  let widths := columns.map (columnWidth limit)
  if total widths ≤ limit then widths
  else List.zipWith columnWidth (collapse limit (total widths) widths) columns

/-- The lines of a cell, margins included. -/
def cellLines (width : Nat) (justify : Lines.Justify) (text : List Char) : List (List Char) :=
  let inner := width - 2 * margin
  let side := List.replicate margin ' '
  (Lines.wrap inner justify .cut text).map fun l => side ++ Lines.pad inner l ++ side

/-- Puts cells side by side; short ones are filled up at the bottom. -/
def beside : List (Nat × List (List Char)) → List (List Char)
  | cells =>
    let height := (cells.map (·.2.length)).foldl max 1
    (List.range height).map fun i =>
      cells.flatMap fun (width, lines) => (lines[i]?).getD (List.replicate width ' ')

/-- The lines of a table. -/
def render (limit : Nat) (columns : List Column) : Except Failure (List (List Char)) := do
  let texts ← columns.mapM fun c => (c.heading :: c.cells).mapM fun s => Markup.render s.toList
  let widths := columnWidths limit texts
  let rows := (texts.map List.length).foldl max 0
  return (List.range rows).flatMap fun i =>
    beside ((columns.zip (widths.zip texts)).map fun (c, width, column) =>
      (width, cellLines width (if c.rightAligned then .right else .left) ((column[i]?).getD [])))

end Table

end MeshAgent
