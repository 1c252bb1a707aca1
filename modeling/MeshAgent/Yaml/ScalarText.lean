import MeshAgent.Bytes
import MeshAgent.Yaml.Cursor
import MeshAgent.Yaml.Problem

/-!
# Scalars in a YAML text

Plain, quoted and block scalars. Line ends inside a scalar are folded: a single one is a space, and
of several ones the first is dropped.
-/
namespace MeshAgent.Yaml

/-- A folded line end and the breaks after it. -/
def fold (first : Char) (breaks : List Char) : List Char :=
  if first ≠ '\n' then first :: breaks
  else if breaks.isEmpty then [' ']
  else breaks

namespace Plain

/-- Characters that end a plain scalar inside brackets. -/
def endsInFlow (c : Char) : Bool := [',', '?', '[', ']', '{', '}'].contains c

/-- Length of the part of a plain scalar that stands on one line without blanks. -/
def wordLength (flow : Bool) : List Char → Nat
  | [] => 0
  | c :: r =>
    if isGap c then 0
    else if flow && endsInFlow c then 0
    else if c = ':' && (match r with
        | [] => true
        | d :: _ => isGap d || (flow && [',', '[', ']', '{', '}'].contains d)) then 0
    else wordLength flow r + 1

/-- Line ends and spaces after the first line end; `none` at a document mark. -/
def breaks? : Nat → Cursor → Option (List Char) × Cursor
  | 0, c => (some [], c)
  | fuel + 1, c =>
    if c.sees ' ' then breaks? fuel c.next
    else
      match c.lineBreak? with
      | none => (some [], c)
      | some (b, c) =>
        if c.atDocumentMark then (none, c)
        else
          let (bs, c) := breaks? fuel c
          (bs.map (b :: ·), c)

/-- What separates two words, whether a line has ended, and the position after it. No separation
ends the scalar. -/
def spaces (c : Cursor) : List Char × Bool × Cursor :=
  let (blanks, c) := c.span (· = ' ')
  match c.lineBreak? with
  | none => (blanks, false, c)
  | some (b, c) =>
    if c.atDocumentMark then ([], true, c)
    else
      match breaks? (c.rest.length + 1) c with
      | (none, c) => ([], true, c)
      | (some bs, c) => (fold b bs, true, c)

/-- Words of a plain scalar and whether a line has ended after the last one. -/
def words (flow : Bool) (indent : Int) : Nat → Cursor → List Char × Bool × Cursor
  | 0, c => ([], false, c)
  | fuel + 1, c =>
    let n := if c.sees '#' then 0 else wordLength flow c.rest
    if n = 0 then ([], false, c)
    else
      let word := c.rest.take n
      let (sep, ended, c) := spaces (c.skip n)
      if sep.isEmpty || c.sees '#' || (!flow && (c.column : Int) < indent) then (word, ended, c)
      else
        let (more, ended', c) := words flow indent fuel c
        if more.isEmpty then (word, ended, c) else (word ++ sep ++ more, ended', c)

end Plain

namespace Quoted

/-- Characters named by one letter after a backslash. -/
def shortEscapes : List (Char × Char) :=
  [('0', '\x00'), ('a', '\x07'), ('b', '\x08'), ('t', '\t'), ('\t', '\t'), ('n', '\n'),
   ('v', '\x0b'), ('f', '\x0c'), ('r', '\r'), ('e', '\x1b'), (' ', ' '), ('"', '"'),
   ('\\', '\\'), ('/', '/'), ('N', '\x85'), ('_', '\xa0'), ('L', '\u2028'), ('P', '\u2029')]

/-- Number of hexadecimal digits after the letter of a long escape. -/
def escapeLength? (c : Char) : Option Nat :=
  if c = 'x' then some 2 else if c = 'u' then some 4 else if c = 'U' then some 8 else none

/-- The character with a hexadecimal number. Half of a surrogate pair, which no text here can hold, is
read as the replacement character. -/
def ofHex (ds : List Char) : Except Problem Char := do
  let values ← orRefused (ds.mapM Bytes.hexValue?)
  let n := values.foldl (fun acc d => acc * 16 + d) 0
  if h : n.isValidChar then .ok (Char.ofNatAux n h)
  else if n < 0x110000 then .ok '\uFFFD'
  else if n < 0x80000000 then .error .refused
  else .error (.broken (.tooLarge "Python int too large to convert to C int"))

/-- Line ends, with blanks between them; a document mark is an error. -/
def breaks? : Nat → Cursor → Option (List Char × Cursor)
  | 0, _ => none
  | fuel + 1, c =>
    if c.atDocumentMark then none
    else
      let c := c.skipWhile fun x => x = ' ' || x = '\t'
      match c.lineBreak? with
      | none => some ([], c)
      | some (b, c) => do
        let (bs, c) ← breaks? fuel c
        some (b :: bs, c)

/-- Reads up to the closing quote. -/
def body (double : Bool) : Nat → Cursor → Except Problem (List Char × Cursor)
  | 0, _ => .error .refused
  | fuel + 1, c =>
    match c.rest with
    | [] => .error .refused
    | x :: r =>
      if !double && x = '\'' then
        match r with
        | '\'' :: _ => do
          let (s, c) ← body double fuel (c.skip 2)
          .ok ('\'' :: s, c)
        | _ => .ok ([], c.next)
      else if double && x = '"' then .ok ([], c.next)
      else if double && x = '\\' then
        match r with
        | [] => .error .refused
        | e :: ds =>
          if isBreak e then do
            let (bs, c) ← orRefused (breaks? (c.rest.length + 1) (c.skip 2))
            let (s, c) ← body double fuel c
            .ok (bs ++ s, c)
          else
            match shortEscapes.find? fun p => p.1 = e with
            | some (_, ch) => do
              let (s, c) ← body double fuel (c.skip 2)
              .ok (ch :: s, c)
            | none => do
              let n ← orRefused (escapeLength? e)
              if ds.length < n then .error .refused
              else
                let ch ← ofHex (ds.take n)
                let (s, c) ← body double fuel (c.skip (2 + n))
                .ok (ch :: s, c)
      else if isGap x then
        let (blanks, c) := c.span fun x => x = ' ' || x = '\t'
        match c.lineBreak? with
        | none => do
          let (s, c) ← body double fuel c
          .ok (blanks ++ s, c)
        | some (b, c) => do
          let (bs, c) ← orRefused (breaks? (c.rest.length + 1) c)
          let (s, c) ← body double fuel c
          .ok (fold b bs ++ s, c)
      else do
        let (s, c) ← body double fuel c.next
        .ok (x :: s, c)

end Quoted

namespace Block

/-- What a header says about the line ends at the end of a block scalar. -/
inductive Chomping
  | strip
  | clip
  | keep
deriving DecidableEq, Repr

def chomping? (c : Char) : Option Chomping :=
  if c = '+' then some .keep else if c = '-' then some .strip else none

def indentDigit? (c : Char) : Option Nat :=
  if '0' ≤ c ∧ c ≤ '9' then some (c.toNat - 48) else none

/-- Chomping and indentation, in either order; an indentation of zero is refused. -/
def header? (c : Cursor) : Option (Chomping × Option Nat × Cursor) := do
  let (ch, n, c) : Option Chomping × Option Nat × Cursor := match c.rest with
    | x :: r =>
      match chomping? x with
      | some ch =>
        match r.head?.bind indentDigit? with
        | some n => (some ch, some n, c.skip 2)
        | none => (some ch, none, c.next)
      | none =>
        match indentDigit? x with
        | some n =>
          match r.head?.bind chomping? with
          | some ch => (some ch, some n, c.skip 2)
          | none => (none, some n, c.next)
        | none => (none, none, c)
    | [] => (none, none, c)
  if n = some 0 then none
  else if c.sees ' ' || c.atLineEnd then some (ch.getD .clip, n, c)
  else none

/-- Drops blanks and a comment up to the end of the line. -/
def restOfLine? (c : Cursor) : Option Cursor :=
  let c := c.skipWhile (· = ' ')
  let c := if c.sees '#' then c.skipWhile fun x => !isBreak x else c
  if c.atLineEnd then some c.next else none

/-- Blank lines before the first line of text, and the largest indentation among them. -/
def leading : Nat → Nat → Cursor → List Char × Nat × Cursor
  | 0, widest, c => ([], widest, c)
  | fuel + 1, widest, c =>
    if c.sees ' ' then leading fuel (max widest (c.column + 1)) c.next
    else
      match c.lineBreak? with
      | none => ([], widest, c)
      | some (b, c) =>
        let (bs, widest, c) := leading fuel widest c
        (b :: bs, widest, c)

/-- Skips spaces up to the given column. -/
def toColumn (indent : Nat) : Nat → Cursor → Cursor
  | 0, c => c
  | fuel + 1, c => if c.column < indent && c.sees ' ' then toColumn indent fuel c.next else c

/-- Blank lines between lines of text. -/
def breaks (indent : Nat) : Nat → Cursor → List Char × Cursor
  | 0, c => ([], c)
  | fuel + 1, c =>
    let c := toColumn indent (indent + 1) c
    match c.lineBreak? with
    | none => ([], c)
    | some (b, c) =>
      let (bs, c) := breaks indent fuel c
      (b :: bs, c)

def startsBlank (c : Cursor) : Bool := c.sees ' ' || c.sees '\t'

/-- The lines of a block scalar: text, the last line end, and the blank lines after it. -/
def lines (folded : Bool) (indent : Nat) :
    Nat → List Char → Cursor → List Char × List Char × List Char × Cursor
  | 0, before, c => (before, [], [], c)
  | fuel + 1, before, c =>
    let blank := startsBlank c
    let (text, c) := c.span fun x => !isBreak x
    let (ending, c) : List Char × Cursor := match c.lineBreak? with
      | some (b, c) => ([b], c)
      | none => ([], c)
    let (bs, c) := breaks indent (c.rest.length + 1) c
    if c.column = indent && !c.rest.isEmpty then
      let glue :=
        if folded && ending = ['\n'] && !blank && !startsBlank c then
          (if bs.isEmpty then [' '] else [])
        else ending
      lines folded indent fuel (before ++ text ++ glue ++ bs) c
    else (before ++ text, ending, bs, c)

/-- Reads a block scalar after its indicator, inside a block of the given indentation. -/
def scan? (folded : Bool) (parentIndent : Int) (c : Cursor) : Option (List Char × Cursor) := do
  let (chomping, increment, c) ← header? c
  let c ← restOfLine? c
  let least : Nat := (max (parentIndent + 1) 1).toNat
  let (indent, bs, c) : Nat × List Char × Cursor := match increment with
    | some n =>
      let indent := least + n - 1
      let (bs, c) := breaks indent (c.rest.length + 1) c
      (indent, bs, c)
    | none =>
      let (bs, widest, c) := leading (c.rest.length + 1) 0 c
      (max least widest, bs, c)
  let (text, ending, after, c) :=
    if c.column = indent && !c.rest.isEmpty then lines folded indent (c.rest.length + 1) bs c
    else ([], [], bs, c)
  let tail := match chomping with
    | .strip => []
    | .clip => ending
    | .keep => ending ++ after
  some (text ++ tail, c)

end Block

end MeshAgent.Yaml
