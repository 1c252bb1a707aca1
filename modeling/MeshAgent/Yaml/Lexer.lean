import MeshAgent.Yaml.ScalarText
import MeshAgent.Yaml.Token

/-!
# From text to tokens

A key on one line is only known to be a key when its colon is met. The places where such a key could
have started are remembered, one for each level of brackets, and the tokens that announce the key are
put in there afterwards.
-/
namespace MeshAgent.Yaml

/-- A place where a key may have started. -/
structure KeyStart where
  /-- Nesting in brackets. -/
  depth : Nat
  /-- Number of tokens before it. -/
  position : Nat
  /-- Nothing but a key can stand there. -/
  required : Bool
  index : Nat
  line : Nat
  column : Nat
deriving Repr

structure Lexer where
  cursor : Cursor
  tokens : List Token := []
  /-- Nesting in brackets. -/
  depth : Nat := 0
  /-- Column of the innermost block. -/
  indent : Int := -1
  outerIndents : List Int := []
  keyAllowed : Bool := true
  keyStarts : List KeyStart := []

namespace Lexer

def emit (l : Lexer) (t : Token) : Lexer := { l with tokens := l.tokens ++ [t] }

def insertToken (l : Lexer) (position : Nat) (t : Token) : Lexer :=
  { l with tokens := l.tokens.insertIdx position t }

/-- Longest distance, in characters, between the start of a key and its colon. -/
def keyLimit : Nat := 1024

def isStale (l : Lexer) (k : KeyStart) : Bool :=
  k.line ≠ l.cursor.line || k.index + keyLimit < l.cursor.index

/-- Forgets starts of keys that are too far back. A required key must not be forgotten. -/
def dropStale? (l : Lexer) : Option Lexer :=
  if l.keyStarts.any fun k => l.isStale k && k.required then none
  else some { l with keyStarts := l.keyStarts.filter fun k => !l.isStale k }

/-- Forgets the start of a key at this level. -/
def dropKeyStart? (l : Lexer) : Option Lexer :=
  if l.keyStarts.any fun k => k.depth = l.depth && k.required then none
  else some { l with keyStarts := l.keyStarts.filter fun k => k.depth ≠ l.depth }

/-- Remembers that a key may start here. -/
def saveKeyStart? (l : Lexer) : Option Lexer :=
  if l.keyAllowed then do
    let required := l.depth = 0 && l.indent = l.cursor.column
    let l ← l.dropKeyStart?
    some { l with keyStarts := { depth := l.depth, position := l.tokens.length, required,
                                 index := l.cursor.index, line := l.cursor.line,
                                 column := l.cursor.column } :: l.keyStarts }
  else some l

/-- Ends the blocks that are indented more than `column`; `indents` are the outer ones. -/
def closeBlocks (column : Int) : Int → List Int → List Token → Int × List Int × List Token
  | indent, [], ts => (indent, [], ts)
  | indent, outer :: outers, ts =>
    if column < indent then closeBlocks column outer outers (ts ++ [.blockEnd])
    else (indent, outer :: outers, ts)

def unwind (l : Lexer) (column : Int) : Lexer :=
  if l.depth ≠ 0 then l
  else
    let (indent, outerIndents, tokens) := closeBlocks column l.indent l.outerIndents l.tokens
    { l with indent, outerIndents, tokens }

/-- Opens a block at a column, unless the block at hand is indented as much. -/
def openBlock (l : Lexer) (column : Nat) : Option Lexer :=
  if l.indent < column then
    some { l with indent := column, outerIndents := l.indent :: l.outerIndents }
  else none

/-- Spaces, comments and line ends before a token. A new line may start a key. -/
def skipGaps : Nat → Cursor → Bool → Cursor × Bool
  | 0, c, newLine => (c, newLine)
  | fuel + 1, c, newLine =>
    let c := c.skipWhile (· = ' ')
    let c := if c.sees '#' then c.skipWhile fun x => !isBreak x else c
    match c.lineBreak? with
    | some (_, c) => skipGaps fuel c true
    | none => (c, newLine)

/-- A token that may be a key, of one character or with its own scanner. -/
def simple? (l : Lexer) (scan : Cursor → Option (Token × Cursor)) : Option Lexer := do
  let l ← l.saveKeyStart?
  let (t, c) ← scan l.cursor
  some ({ l with keyAllowed := false, cursor := c }.emit t)

/-- Name of an anchor or alias, after its sign. -/
def scanName? (make : String → Token) (c : Cursor) : Option (Token × Cursor) :=
  let (name, c) := c.next.span isWordChar
  if name.isEmpty then none
  else if c.gapAt 0 || c.rest.head?.any (fun x => "?:,]\x7d%@`".toList.contains x) then
    some (make (String.ofList name), c)
  else none

def isUriChar (c : Char) : Bool := isWordChar c || ";/?:@&=+$,.!~*'()[]".toList.contains c

/-- The rest of a tag; bytes may be written in hexadecimal after a percent sign. -/
def scanUri? : Nat → Cursor → Option (List Char × Cursor)
  | 0, _ => none
  | fuel + 1, c =>
    match c.rest with
    | '%' :: _ => do
      let (bytes, c) ← escapedBytes? (c.rest.length + 1) c
      let s ← Bytes.toText? bytes
      let (more, c) ← scanUri? fuel c
      some (s.toList ++ more, c)
    | x :: _ =>
      if isUriChar x then do
        let (more, c) ← scanUri? fuel c.next
        some (x :: more, c)
      else some ([], c)
    | [] => some ([], c)
where
  escapedBytes? : Nat → Cursor → Option (Bytes × Cursor)
    | 0, _ => none
    | fuel + 1, c =>
      match c.rest with
      | '%' :: a :: b :: _ => do
        let hi ← Bytes.hexValue? a
        let lo ← Bytes.hexValue? b
        let (more, c) ← escapedBytes? fuel (c.skip 3)
        some (UInt8.ofNat (16 * hi + lo) :: more, c)
      | '%' :: _ => none
      | _ => some ([], c)

/-- A tag handle: an exclamation mark, alone or at both ends of a word. -/
def scanHandle? (c : Cursor) : Option (String × Cursor) :=
  let after := c.next
  if after.sees ' ' then some ("!", after)
  else
    let (word, c) := after.span isWordChar
    if c.sees '!' then some (String.ofList ('!' :: word ++ ['!']), c.next) else none

/-- A gap, but no tab, or the end. -/
def atSpace (c : Cursor) : Bool := c.sees ' ' || c.atLineEnd

def nonEmptyUri? (c : Cursor) : Option (List Char × Cursor) := do
  let (s, c) ← scanUri? (c.rest.length + 1) c
  if s.isEmpty then none else some (s, c)

def scanTag? (c : Cursor) : Option (Token × Cursor) := do
  let second := c.rest[1]?
  let (t, c) ←
    if second = some '<' then do
      let (s, c) ← nonEmptyUri? (c.skip 2)
      if c.sees '>' then some (Token.tag none (String.ofList s), c.next) else none
    else if c.gapAt 1 then some (Token.tag none "!", c.next)
    else if ((c.rest.drop 1).takeWhile fun x => !(x = ' ' || isBreak x)).contains '!' then do
      let (handle, c) ← scanHandle? c
      let (s, c) ← nonEmptyUri? c
      some (Token.tag (some handle) (String.ofList s), c)
    else do
      let (s, c) ← nonEmptyUri? c.next
      some (Token.tag (some "!") (String.ofList s), c)
  if atSpace c then some (t, c) else none

def scanNumber? (c : Cursor) : Option (Nat × Cursor) :=
  let (ds, c) := c.span Decimal.isDigit
  if ds.isEmpty || Decimal.digitLimit < ds.length then none else some (Decimal.value ds, c)

/-- A directive, after its percent sign. -/
def scanDirective? (c : Cursor) : Option (Token × Cursor) := do
  let (name, c) := c.next.span isWordChar
  if name.isEmpty || !atSpace c then none
  else
    let (t, c) ←
      if name = "YAML".toList then do
        let (major, c) ← scanNumber? (c.skipWhile (· = ' '))
        if !c.sees '.' then none
        else
          let (_, c) ← scanNumber? c.next
          if atSpace c then some (Token.version major, c) else none
      else if name = "TAG".toList then do
        let c := c.skipWhile (· = ' ')
        if !c.sees '!' then none
        else
          let (handle, c) ← scanHandle? c
          if !c.sees ' ' then none
          else
            let (s, c) ← nonEmptyUri? (c.skipWhile (· = ' '))
            if atSpace c then some (Token.tagHandle handle (String.ofList s), c) else none
      else some (Token.otherDirective, c.skipWhile fun x => !isBreak x)
    let c ← Block.restOfLine? c
    some (t, c)

def openFlow? (l : Lexer) (t : Token) : Option Lexer := do
  let l ← l.saveKeyStart?
  some ({ l with depth := l.depth + 1, keyAllowed := true, cursor := l.cursor.next }.emit t)

/-- A bracket that closes nothing is an error. -/
def closeFlow? (l : Lexer) (t : Token) : Option Lexer := do
  let l ← l.dropKeyStart?
  if l.depth = 0 then none
  else some ({ l with depth := l.depth - 1, keyAllowed := false, cursor := l.cursor.next }.emit t)

def flowEntry? (l : Lexer) : Option Lexer := do
  let l ← l.dropKeyStart?
  some ({ l with keyAllowed := true, cursor := l.cursor.next }.emit .flowEntry)

/-- An entry of a block sequence, or a key that is marked as such. -/
def blockItem? (l : Lexer) (start item : Token) (keyAllowed : Bool) : Option Lexer := do
  let l ←
    if l.depth ≠ 0 then some l
    else if !l.keyAllowed then none
    else
      match l.openBlock l.cursor.column with
      | some l => some (l.emit start)
      | none => some l
  let l ← { l with keyAllowed }.dropKeyStart?
  some ({ l with cursor := l.cursor.next }.emit item)

/-- A colon: either a key has started before it, or the value stands alone. -/
def value? (l : Lexer) : Option Lexer := do
  let l ←
    match l.keyStarts.find? fun k => k.depth = l.depth with
    | some k =>
      let l := { l with keyStarts := l.keyStarts.filter fun k => k.depth ≠ l.depth }
      let l := l.insertToken k.position .key
      let l :=
        if l.depth ≠ 0 then l
        else
          match l.openBlock k.column with
          | some l => l.insertToken k.position .blockMappingStart
          | none => l
      some { l with keyAllowed := false }
    | none => do
      let l ←
        if l.depth ≠ 0 then some l
        else if !l.keyAllowed then none
        else
          match l.openBlock l.cursor.column with
          | some l => some (l.emit .blockMappingStart)
          | none => some l
      { l with keyAllowed := l.depth = 0 }.dropKeyStart?
  some ({ l with cursor := l.cursor.next }.emit .value)

def documentMark? (l : Lexer) (t : Token) : Option Lexer := do
  let l ← (l.unwind (-1)).dropKeyStart?
  some ({ l with keyAllowed := false, cursor := l.cursor.skip 3 }.emit t)

def directive? (l : Lexer) : Option Lexer := do
  let l ← (l.unwind (-1)).dropKeyStart?
  let (t, c) ← scanDirective? l.cursor
  some ({ l with keyAllowed := false, cursor := c }.emit t)

def blockScalar? (l : Lexer) (folded : Bool) : Option Lexer := do
  let l ← l.dropKeyStart?
  let (s, c) ← Block.scan? folded l.indent l.cursor.next
  some ({ l with keyAllowed := true, cursor := c }.emit (.scalar (String.ofList s) false))

def quoted (l : Lexer) (double : Bool) : Except Problem Lexer := do
  let l ← orRefused l.saveKeyStart?
  let (s, c) ← Quoted.body double (l.cursor.rest.length + 1) l.cursor.next
  .ok ({ l with keyAllowed := false, cursor := c }.emit (.scalar (String.ofList s) false))

/-- Whether a plain scalar can start here. -/
def startsPlain (flow : Bool) (x : Char) (c : Cursor) : Bool :=
  !(isGap x || "-?:,[]\x7b\x7d#&*!|>'\"%@`".toList.contains x)
    || (!c.gapAt 1 && (x = '-' || (!flow && (x = '?' || x = ':'))))

def plain? (l : Lexer) : Option Lexer := do
  let l ← l.saveKeyStart?
  let (s, ended, c) :=
    Plain.words (l.depth ≠ 0) (l.indent + 1) (l.cursor.rest.length + 1) l.cursor
  some ({ l with keyAllowed := ended, cursor := c }.emit (.scalar (String.ofList s) true))

/-- Reads one token that starts with `x`, unless it is quoted. -/
def token? (l : Lexer) (x : Char) : Option Lexer :=
  let c := l.cursor
  let flow : Bool := l.depth ≠ 0
  if c.column = 0 && x = '%' then l.directive?
  else if c.column = 0 && x = '-' && c.atDocumentMark then l.documentMark? .documentStart
  else if c.column = 0 && x = '.' && c.atDocumentMark then l.documentMark? .documentEnd
  else if x = '[' then l.openFlow? .flowSequenceStart
  else if x = '{' then l.openFlow? .flowMappingStart
  else if x = ']' then l.closeFlow? .flowSequenceEnd
  else if x = '}' then l.closeFlow? .flowMappingEnd
  else if x = ',' then l.flowEntry?
  else if x = '-' && c.gapAt 1 then l.blockItem? .blockSequenceStart .blockEntry true
  else if x = '?' && (flow || c.gapAt 1) then l.blockItem? .blockMappingStart .key (!flow)
  else if x = ':' && (flow || c.gapAt 1) then l.value?
  else if x = '*' then l.simple? (scanName? .alias_)
  else if x = '&' then l.simple? (scanName? .anchor)
  else if x = '!' then l.simple? scanTag?
  else if x = '|' && !flow then l.blockScalar? false
  else if x = '>' && !flow then l.blockScalar? true
  else if startsPlain flow x c then l.plain?
  else none

/-- Reads one token that starts with `x`. -/
def token (l : Lexer) (x : Char) : Except Problem Lexer :=
  if x = '\'' then l.quoted false
  else if x = '"' then l.quoted true
  else orRefused (l.token? x)

/-- Reads the tokens that are left. Every token takes at least one character. -/
def run : Nat → Lexer → Except Problem (List Token)
  | 0, _ => .error .refused
  | fuel + 1, l =>
    let (c, newLine) := skipGaps (l.cursor.rest.length + 1) l.cursor false
    let l := { l with cursor := c, keyAllowed := l.keyAllowed || (newLine && l.depth = 0) }
    match l.dropStale? with
    | none => .error .refused
    | some l =>
      let l := l.unwind l.cursor.column
      match l.cursor.rest with
      | [] => orRefused ((l.unwind (-1)).dropKeyStart?.map (·.tokens))
      | x :: _ =>
        match l.token x with
        | .error p => .error p
        | .ok l => run fuel l

end Lexer

/-- The tokens of a text, if it is made of tokens. -/
def tokens (cs : List Char) : Except Problem (List Token) :=
  if cs.all isAllowed then
    let start := if cs.head? = some '\uFEFF' then (Cursor.mk cs 0 0 0).next else Cursor.mk cs 0 0 0
    (Lexer.mk start [] 0 (-1) [] true []).run (cs.length + 2)
  else .error .refused

end MeshAgent.Yaml
