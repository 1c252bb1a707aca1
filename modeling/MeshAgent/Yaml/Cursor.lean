import MeshAgent.Text.Split

/-!
# Positions in a YAML text

Structure in YAML is carried by columns, so a reader keeps track of the line and column it is at. A
byte-order mark takes no column.
-/
namespace MeshAgent.Yaml

/-- Characters that end a line. -/
def isBreak (c : Char) : Bool := c = '\n' || c = '\x85' || c = '\u2028' || c = '\u2029'

/-- Blanks and line ends. -/
def isGap (c : Char) : Bool := c = ' ' || c = '\t' || isBreak c

/-- Characters that a text may hold at all. -/
def isAllowed (c : Char) : Bool :=
  let n := c.toNat
  n = 9 || n = 10 || n = 13 || (32 ≤ n && n ≤ 126) || n = 0x85 || (0xA0 ≤ n && n ≤ 0xD7FF)
    || (0xE000 ≤ n && n ≤ 0xFFFD) || 0x10000 ≤ n

/-- Letters, digits, hyphen and underscore of ASCII. -/
def isWordChar (c : Char) : Bool :=
  let n := c.toNat
  (48 ≤ n && n ≤ 57) || (65 ≤ n && n ≤ 90) || (97 ≤ n && n ≤ 122) || c = '-' || c = '_'

structure Cursor where
  rest : List Char
  /-- Characters read so far. -/
  index : Nat := 0
  line : Nat := 0
  column : Nat := 0
deriving Repr

namespace Cursor

/-- Moves past one character. -/
def next (c : Cursor) : Cursor :=
  match c.rest with
  | [] => c
  | x :: r =>
    if isBreak x then { rest := r, index := c.index + 1, line := c.line + 1, column := 0 }
    else if x = '\uFEFF' then { c with rest := r, index := c.index + 1 }
    else { c with rest := r, index := c.index + 1, column := c.column + 1 }

def skip : Nat → Cursor → Cursor
  | 0, c => c
  | n + 1, c => skip n c.next

/-- The longest run of characters of a class, and the position after it. -/
def span (p : Char → Bool) (c : Cursor) : List Char × Cursor :=
  let taken := c.rest.takeWhile p
  (taken, c.skip taken.length)

def skipWhile (p : Char → Bool) (c : Cursor) : Cursor := (c.span p).2

def head? (c : Cursor) : Option Char := c.rest.head?

/-- Whether the given character is next. -/
def sees (c : Cursor) (x : Char) : Bool := c.rest.head? = some x

/-- Whether a gap or the end is `n` characters ahead. -/
def gapAt (c : Cursor) (n : Nat) : Bool :=
  match (c.rest.drop n).head? with
  | none => true
  | some x => isGap x

/-- Whether a line end or the end is next. -/
def atLineEnd (c : Cursor) : Bool :=
  match c.rest.head? with
  | none => true
  | some x => isBreak x

/-- Reads one line end, if it is next. -/
def lineBreak? (c : Cursor) : Option (Char × Cursor) :=
  match c.rest with
  | x :: _ => if isBreak x then some (if x = '\x85' then '\n' else x, c.next) else none
  | [] => none

/-- Whether three hyphens or three dots stand alone here. -/
def atDocumentMark (c : Cursor) : Bool :=
  (c.rest.take 3 = ['-', '-', '-'] || c.rest.take 3 = ['.', '.', '.']) && c.gapAt 3

end Cursor

end MeshAgent.Yaml
