import MeshAgent.Text.Quoted
import MeshAgent.Yaml.Cursor
import MeshAgent.Yaml.Implicit

/-!
# Writing YAML scalars

A text is written plain if it would be read back as itself, else in single quotes, else in double
quotes with escapes. Only ASCII is written. Lines that run past the width are folded at spaces, and
what follows is indented.
-/
namespace MeshAgent.Yaml

/-- Lines are folded once they are longer than this. -/
def lineWidth : Nat := 80

/-- Indentation of the further lines of a scalar. -/
def foldIndent : List Char := [' ', ' ']

inductive ScalarStyle
  | plain
  | single
  | double
deriving DecidableEq, Repr

namespace ScalarStyle

/-- Characters that stand for themselves outside double quotes. -/
def isOrdinary (c : Char) : Bool := c = '\n' || (32 ≤ c.toNat && c.toNat ≤ 126)

/-- Indicators that no plain scalar starts with. -/
def isLeadingIndicator (c : Char) : Bool := "#,[]\x7b\x7d&*!|>'\"%@`".toList.contains c

def gapNext (r : List Char) : Bool :=
  match r with
  | [] => true
  | c :: _ => isGap c

/-- Whether an indicator stands at the start of a scalar. -/
def startsWithIndicator : List Char → Bool
  | [] => false
  | c :: r => isLeadingIndicator c || ((c = '?' || c = ':' || c = '-') && gapNext r)

/-- Whether a colon before a gap or a hash after one stands inside a scalar. -/
def holdsIndicator : List Char → Bool
  | [] => false
  | c :: r =>
    (match r with
      | [] => false
      | d :: s => (d = ':' && gapNext s) || (d = '#' && isGap c)) || holdsIndicator r

/-- Whether a character of one class is followed by one of another. -/
def follows (p q : Char → Bool) : List Char → Bool
  | a :: b :: r => (p a && q b) || follows p q (b :: r)
  | _ => false

def startsWithMark (cs : List Char) : Bool :=
  cs.take 3 = ['-', '-', '-'] || cs.take 3 = ['.', '.', '.']

/-- Single quotes keep line ends, but no space next to one and no control characters. -/
def fitsSingle (cs : List Char) : Bool :=
  cs.all isOrdinary && !follows (· = ' ') (· = '\n') cs && !follows (· = '\n') (· = ' ') cs

/-- A plain scalar has one line without blanks at its ends, and nothing in it looks like structure
or like a value of another type. -/
def fitsPlain (cs : List Char) : Bool :=
  cs.all isOrdinary && !cs.contains '\n' && !(cs.head? = some ' ') && !(cs.getLast? = some ' ')
    && !startsWithMark cs && !startsWithIndicator cs && !holdsIndicator cs
    && implicitTag (String.ofList cs) = Tag.text

def of (cs : List Char) : ScalarStyle :=
  if fitsPlain cs then plain else if fitsSingle cs then single else double

end ScalarStyle

namespace Scalar

/-- Writes text that needs no escapes, from a column on. A space that stands alone is where a long
line is folded; line ends are written twice, since a single one would be read as a space. -/
def flow (quoted : Bool) : Nat → Option Char → List Char → List Char
  | _, _, [] => []
  | column, before, c :: r =>
    if c = ' ' then
      if before.isSome && before ≠ some ' ' && !r.isEmpty && r.head? ≠ some ' '
          && lineWidth < column then
        '\n' :: foldIndent ++ flow quoted foldIndent.length (some c) r
      else c :: flow quoted (column + 1) (some c) r
    else if c = '\n' then
      (if before = some '\n' then [] else ['\n']) ++ '\n' ::
        (if r.head? = some '\n' then flow quoted 0 (some c) r
         else foldIndent ++ flow quoted foldIndent.length (some c) r)
    else if quoted && c = '\'' then '\'' :: '\'' :: flow quoted (column + 2) (some c) r
    else c :: flow quoted (column + 1) (some c) r

/-- Characters with an escape of one letter. -/
def shortEscapes : List (Char × Char) :=
  [('\x00', '0'), ('\x07', 'a'), ('\x08', 'b'), ('\t', 't'), ('\n', 'n'), ('\x0b', 'v'),
   ('\x0c', 'f'), ('\r', 'r'), ('\x1b', 'e'), ('"', '"'), ('\\', '\\'), ('\x85', 'N'),
   ('\xa0', '_'), ('\u2028', 'L'), ('\u2029', 'P')]

def upperHex (width n : Nat) : List Char :=
  (Text.hexPad width n).map fun c => if 'a' ≤ c then Char.ofNat (c.toNat - 32) else c

/-- The escape of a character; `none` if it stands for itself. -/
def escape? (c : Char) : Option (List Char) :=
  match shortEscapes.lookup c with
  | some e => some ['\\', e]
  | none =>
    if 32 ≤ c.toNat ∧ c.toNat ≤ 126 then none
    else if c.toNat ≤ 0xFF then some ('\\' :: 'x' :: upperHex 2 c.toNat)
    else if c.toNat ≤ 0xFFFF then some ('\\' :: 'u' :: upperHex 4 c.toNat)
    else some ('\\' :: 'U' :: upperHex 8 c.toNat)

/-- A folded line inside double quotes: the line end is escaped, and so is a space after it. -/
def escapedFold (next : Option Char) : List Char :=
  ['\\', '\n'] ++ foldIndent ++ (if next = some ' ' then ['\\'] else [])

/-- Column after a folded line. -/
def columnAfterFold (next : Option Char) : Nat := if next = some ' ' then 3 else 2

/-- Writes text with escapes, from a column on. Lines are folded before spaces and next to escapes,
but not at the first or the last character. `fresh` says that an escape or a fold is right before. -/
def escaped (first fresh : Bool) (column : Nat) : List Char → List Char
  | [] => []
  | c :: r =>
    let inner := !first && !r.isEmpty
    match escape? c with
    | some e =>
      let column := column + e.length
      if inner && lineWidth + 1 < column then
        e ++ escapedFold r.head? ++ escaped false true (columnAfterFold r.head?) r
      else e ++ escaped false true column r
    | none =>
      if inner && (c = ' ' || fresh) && lineWidth < column then
        escapedFold (some c) ++ c :: escaped false false (columnAfterFold (some c) + 1) r
      else c :: escaped false false (column + 1) r

/-- Writes a text as a scalar that starts at a column. -/
def write (column : Nat) (s : String) : List Char :=
  let cs := s.toList
  match ScalarStyle.of cs with
  | .plain => flow false column none cs
  | .single => '\'' :: flow true (column + 1) none cs ++ ['\'']
  | .double => '"' :: escaped true true (column + 1) cs ++ ['"']

end Scalar

/-- A line of a mapping: a name and what its value is written as from its column on. -/
def writeEntry (name : String) (value : Nat → List Char) : List Char :=
  name.toList ++ ':' :: ' ' :: value (name.length + 2) ++ ['\n']

end MeshAgent.Yaml
