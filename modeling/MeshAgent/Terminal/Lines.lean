import MeshAgent.Text.Blank
import MeshAgent.Text.CellWidth
import MeshAgent.Text.Split

/-!
# Lines on a terminal

A text is broken into lines of at most a given number of cells, between words if possible. Blanks
stay with the word before them.
-/
namespace MeshAgent.Lines

open Text (isBlank width charWidth)

/-- What is done with a word that is longer than a line. -/
inductive Overflow
  /-- It goes on in the next line. -/
  | fold
  /-- It is cut off with a mark. -/
  | cut
deriving DecidableEq, Repr

inductive Justify
  | none
  | left
  | right
deriving DecidableEq, Repr

/-- Where a reader of words stands. -/
inductive WordPart
  | before
  | inside
  | after
deriving DecidableEq, Repr

/-- Words with the blanks after them; blanks at the start go to the first word. `current` is the word
so far, in reverse. -/
def wordsFrom (current : List Char) : WordPart → List Char → List (List Char)
  | .before, [] => []
  | _, [] => [current.reverse]
  | place, c :: r =>
    if isBlank c then wordsFrom (c :: current) (if place = .before then .before else .after) r
    else if place = .after then current.reverse :: wordsFrom [c] .inside r
    else wordsFrom (c :: current) .inside r

def words (cs : List Char) : List (List Char) := wordsFrom [] .before cs

/-- Cuts a word into pieces of at most `limit` cells. `current` is the piece so far, in reverse, and
`used` its cells. -/
def chopFrom (limit : Nat) (current : List Char) (used : Nat) : List Char → List (List Char)
  | [] => [current.reverse]
  | c :: r =>
    if limit < used + charWidth c then current.reverse :: chopFrom limit [c] (charWidth c) r
    else chopFrom limit (c :: current) (used + charWidth c) r

def chop (limit : Nat) (cs : List Char) : List (List Char) := chopFrom limit [] 0 cs

def trimEnd (cs : List Char) : List Char := (cs.reverse.dropWhile isBlank).reverse

/-- Puts words on lines. `line` is the line so far and `used` its cells; `first` says that no word
has been placed yet. -/
def fill (limit : Nat) (overflow : Overflow) (line : List Char) (used : Nat) (first : Bool) :
    List (List Char) → List (List Char)
  | [] => [line]
  | w :: ws =>
    let done := if first then [] else [line]
    if used + width (trimEnd w) ≤ limit then
      fill limit overflow (line ++ w) (used + width w) false ws
    else if limit < width (trimEnd w) then
      match overflow with
      | .fold =>
        let pieces := chop limit w
        let last := (pieces.getLast?).getD []
        done ++ pieces.dropLast ++ fill limit overflow last (width last) false ws
      | .cut => done ++ fill limit overflow w (width w) false ws
    else done ++ fill limit overflow w (width w) false ws

/-- The start of a text that takes exactly `limit` cells; half of a wide character is a blank. -/
def crop (limit : Nat) : List Char → List Char
  | [] => List.replicate limit ' '
  | c :: r =>
    if limit = 0 then []
    else if limit < charWidth c then [' ']
    else c :: crop (limit - charWidth c) r

/-- Cuts a line that is too long. -/
def truncate (limit : Nat) (overflow : Overflow) (line : List Char) : List Char :=
  if width line ≤ limit then line
  else
    match overflow with
    | .fold => crop limit line
    | .cut => crop (limit - 1) line ++ ['…']

def pad (limit : Nat) (line : List Char) : List Char :=
  line ++ List.replicate (limit - width line) ' '

/-- Drops blanks at the end of a line as far as it has more than `limit` characters. -/
def dropExcess (limit : Nat) (line : List Char) : List Char :=
  let blanks := line.length - (trimEnd line).length
  line.take (line.length - min blanks (line.length - limit))

def justified (limit : Nat) (justify : Justify) (overflow : Overflow) (line : List Char) :
    List Char :=
  match justify with
  | .none => truncate limit overflow line
  | .left => pad limit (truncate limit overflow line)
  | .right =>
    let line := truncate limit overflow (trimEnd line)
    List.replicate (limit - width line) ' ' ++ line

/-- Tabs go to the next column that is a multiple of eight. -/
def expandTabs (column : Nat) : List Char → List Char
  | [] => []
  | c :: r =>
    if c = '\t' then
      let next := (column / 8 + 1) * 8
      List.replicate (next - column) ' ' ++ expandTabs next r
    else c :: expandTabs (column + charWidth c) r

/-- Breaks a text into lines. -/
def wrap (limit : Nat) (justify : Justify) (overflow : Overflow) (cs : List Char) :
    List (List Char) :=
  (Text.pieces '\n' cs).flatMap fun line =>
    let line := expandTabs 0 line
    let lines := match words line with
      | [] => [line]
      | ws => fill limit overflow [] 0 true ws
    lines.map fun l => justified limit justify overflow (dropExcess limit l)

/-- Characters that end a line in measuring a text. -/
def endsLine (c : Char) : Bool :=
  [10, 11, 12, 13, 28, 29, 30, 0x85, 0x2028, 0x2029].contains c.toNat

/-- Cells of the longest line of a text. -/
def longest (cs : List Char) : Nat :=
  let (best, current) := cs.foldl (fun (best, current) c =>
    if endsLine c then (max best current, 0) else (best, current + charWidth c)) (0, 0)
  max best current

end MeshAgent.Lines
