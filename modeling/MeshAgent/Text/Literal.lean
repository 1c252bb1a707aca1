import MeshAgent.Bytes
import MeshAgent.Number.Numeral

/-!
# Literals

A literal is a number, a text or bytes in quotes, a constant, or a tuple, a set or a mapping of
literals. All that matters here is whether a text is one. Members of sets and keys of mappings must
not hold sets or mappings themselves. No character of a quoted text can be given by its name.
-/
namespace MeshAgent.Literal

/-- What a literal is, as far as it matters for what stands around it. -/
inductive Kind
  /-- A number without a sign. -/
  | number (isReal : Bool)
  | signed (isReal : Bool)
  /-- Anything else that may be a member of a set. -/
  | member
  | collection
deriving DecidableEq, Repr

/-- An imaginary number may be added to it. -/
def Kind.isReal : Kind → Bool
  | number b | signed b => b
  | _ => false

/-! ## Numbers -/

/-- Digits, with single underscores between them. -/
def areDigits (isDigit : Char → Bool) (cs : List Char) : Bool :=
  (Text.pieces '_' cs).all fun p => !p.isEmpty && p.all isDigit

/-- An integer in base ten. None but zero starts with a zero. -/
def isInteger (cs : List Char) : Bool :=
  areDigits Decimal.isDigit cs && (cs.head? ≠ some '0' || cs.all fun c => c = '0' || c = '_')
    && (cs.filter (· ≠ '_')).length ≤ Decimal.digitLimit

/-- Digits with a point in front of them, among them or behind them, or without one. -/
def isMantissa (cs : List Char) : Bool :=
  match Text.cutFirst '.' cs with
  | (whole, none) => areDigits Decimal.isDigit whole
  | ([], some places) => areDigits Decimal.isDigit places
  | (whole, some places) =>
    areDigits Decimal.isDigit whole && (places.isEmpty || areDigits Decimal.isDigit places)

def isDecimal (cs : List Char) : Bool :=
  match Text.cutFirst 'e' cs with
  | (m, none) => isMantissa m
  | (m, some e) => isMantissa m && areDigits Decimal.isDigit (Numeral.sign e).2

/-- Digits behind the letter of a base; an underscore may come first. -/
def areBased (base : Nat) (cs : List Char) : Bool :=
  !cs.isEmpty && areDigits (fun c => (Bytes.hexValue? c).any (· < base)) ('0' :: cs)

/-- Reads a number in lower case. -/
def number? : List Char → Option Kind
  | '0' :: 'x' :: ds => if areBased 16 ds then some (.number true) else none
  | '0' :: 'o' :: ds => if areBased 8 ds then some (.number true) else none
  | '0' :: 'b' :: ds => if areBased 2 ds then some (.number true) else none
  | cs =>
    match Text.cutLast 'j' cs with
    | some (ds, []) => if isDecimal ds then some (.number false) else none
    | _ =>
      if isInteger cs || ((cs.contains '.' || cs.contains 'e') && isDecimal cs) then
        some (.number true)
      else none

/-- Splits off a word. The sign of an exponent belongs to it. -/
def word (cs : List Char) : List Char × List Char :=
  let (w, r) := cs.span fun c => c.isAlphanum || c = '_' || c = '.'
  match (w.map Text.lowerAscii).reverse, r with
  | 'e' :: m, s :: t =>
    if (s = '+' || s = '-') && isMantissa m.reverse then
      let (ds, r) := t.span fun c => c.isAlphanum || c = '_' || c = '.'
      (w ++ s :: ds, r)
    else (w, r)
  | _, _ => (w, r)

/-! ## Texts -/

def isLineEnd (c : Char) : Bool := c = '\n' || c = '\r'

/-- Drops blanks and comments; `true` is within a comment. A line may only end where `lines` says so,
or behind a backslash. -/
def skip (lines : Bool) : Bool → List Char → List Char
  | true, c :: r =>
    if !isLineEnd c then skip lines true r else if lines then skip lines false r else c :: r
  | false, '\\' :: '\r' :: '\n' :: r => skip lines false r
  | false, '\\' :: c :: r => if isLineEnd c then skip lines false r else '\\' :: c :: r
  | false, c :: r =>
    if c = ' ' || c = '\t' || c = '\x0c' || (lines && isLineEnd c) then skip lines false r
    else if c = '#' then skip lines true r
    else c :: r
  | _, [] => []

/-- How a quoted text is read, by the letters in front of it. -/
structure Style where
  /-- Backslashes stand for themselves, except in front of a quote. -/
  isRaw : Bool := false
  isBytes : Bool := false

def style? (letters : List Char) : Option Style :=
  match String.ofList (letters.map Text.lowerAscii) with
  | "" | "u" => some {}
  | "r" => some { isRaw := true }
  | "b" => some { isBytes := true }
  | "br" | "rb" => some { isRaw := true, isBytes := true }
  | _ => none

/-- Whether a character may stand behind a backslash, given what follows it. -/
def isEscape (isBytes : Bool) (c : Char) (r : List Char) : Bool :=
  let areHex (n : Nat) : Bool := n ≤ r.length && (r.take n).all fun d => (Bytes.hexValue? d).isSome
  if c = 'x' then areHex 2
  else if isBytes then c.toNat < 128
  else if c = 'u' then areHex 4
  else if c = 'U' then areHex 8 && (Numeral.inBase? 16 (r.take 8)).all (· ≤ 0x10FFFF)
  else c ≠ 'N'

/-- Drops a quoted text and the quotes at its end. A single quote must come on the same line. -/
def body? (s : Style) (quotes : List Char) : List Char → Option (List Char)
  | '\\' :: '\r' :: '\n' :: r => body? s quotes r
  | '\\' :: c :: r =>
    if if s.isRaw then !s.isBytes || c.toNat < 128 else isEscape s.isBytes c r then body? s quotes r
    else none
  | c :: r =>
    if quotes.isPrefixOf (c :: r) then some (r.drop (quotes.length - 1))
    else if (s.isBytes && 128 ≤ c.toNat) || (quotes.length = 1 && isLineEnd c) || c = '\\' then none
    else body? s quotes r
  | [] => none

def isQuote (c : Char) : Bool := c = '"' || c = '\''

/-- Whether a text in quotes comes first. -/
def isQuoted (cs : List Char) : Bool := ((cs.dropWhile Char.isAlpha).head?.map isQuote).getD false

/-- Splits off a text in quotes; `true` are bytes. -/
def quoted? (cs : List Char) : Option (Bool × List Char) := do
  let (letters, r) := cs.span Char.isAlpha
  let s ← style? letters
  match r with
  | q :: r =>
    let r ← if [q, q].isPrefixOf r then body? s [q, q, q] (r.drop 2) else body? s [q] r
    some (s.isBytes, r)
  | [] => none

/-- Drops further texts in quotes, which are parts of one text. -/
def more? : Nat → Bool → Bool → List Char → Option (List Char)
  | 0, _, _, _ => none
  | n + 1, lines, isBytes, cs =>
    if isQuoted (skip lines false cs) then do
      let (isBytes', r) ← quoted? (skip lines false cs)
      if isBytes' = isBytes then more? n lines isBytes r else none
    else some cs

/-! ## Collections -/

/-- What comes behind the last item. The items of a text as a whole end with it. -/
def ending? (close : Option Char) (cs : List Char) : Option (List Char) :=
  match close with
  | some c => if cs.head? = some c then some cs.tail else none
  | none => if (skip true false cs).isEmpty then some [] else none

structure Items where
  /-- The items and whether they are keys. -/
  items : List (Kind × Bool) := []
  /-- Whether there was a comma. -/
  isList : Bool := false

/-- What items in brackets are. Round brackets around a single item change nothing. -/
def Items.kind? (close : Char) (x : Items) : Option Kind :=
  match close, x.items, x.isList with
  | ')', [(k, _)], false => some k
  | ')', ks, _ => some (if ks.all (·.1 ≠ .collection) then .member else .collection)
  | _, ks, _ =>
    if ks.all (·.1 ≠ .collection) && (ks.all (·.2) || ks.all (!·.2)) then some .collection else none

mutual

/-- Reads a literal without a sign. `depth` brackets may be opened within one another. -/
def atom? : Nat → Nat → Bool → List Char → Option (Kind × List Char)
  | 0, _, _, _ => none
  | n + 1, depth, lines, cs =>
    if isQuoted cs then do
      let (isBytes, r) ← quoted? cs
      let r ← more? n lines isBytes r
      some (.member, r)
    else
      match cs, depth with
      | '(' :: r, depth + 1 => bracket? n depth ')' r
      | '{' :: r, depth + 1 => bracket? n depth '}' r
      | cs, _ =>
        let (w, r) := word cs
        if ["None", "True", "False", "..."].contains (String.ofList w) then some (.member, r)
        else if w = "set".toList then
          match skip lines false r with
          | '(' :: r => (ending? (some ')') (skip true false r)).map (.collection, ·)
          | _ => none
        else (number? (w.map Text.lowerAscii)).map (·, r)

/-- Reads what is left of brackets. -/
def bracket? : Nat → Nat → Char → List Char → Option (Kind × List Char)
  | 0, _, _, _ => none
  | n + 1, depth, close, cs => do
    let (x, r) ← items? n depth (some close) (skip true false cs)
    let k ← x.kind? close
    some (k, r)

/-- Reads a literal and the blanks behind it. It may be a number with a sign, or the sum of a real and
an imaginary one. -/
def sum? : Nat → Nat → Bool → List Char → Option (Kind × List Char)
  | 0, _, _, _ => none
  | n + 1, depth, lines, cs => do
    let (k, r) ← match cs with
      | '+' :: r | '-' :: r =>
        match atom? n depth lines (skip lines false r) with
        | some (.number b, r) => some (.signed b, r)
        | _ => none
      | cs => atom? n depth lines cs
    match k.isReal, skip lines false r with
    | true, '+' :: r | true, '-' :: r =>
      match atom? n depth lines (skip lines false r) with
      | some (.number false, r) => some (.member, skip lines false r)
      | _ => none
    | _, r => some (k, r)

/-- Reads the items up to the end. Between curly brackets they may have values. -/
def items? : Nat → Nat → Option Char → List Char → Option (Items × List Char)
  | 0, _, _, _ => none
  | n + 1, depth, close, cs => do
    if let some r := ending? close cs then return ({}, r)
    let (k, r) ← sum? n depth close.isSome cs
    let (isKey, r) ← match close, r with
      | some '}', ':' :: r => (sum? n depth true (skip true false r)).map fun (_, r) => (true, r)
      | _, r => some (false, r)
    match ending? close r, r with
    | some r, _ => return ({ items := [(k, isKey)] }, r)
    | none, ',' :: r => do
      let (x, r) ← items? n depth close (skip close.isSome false r)
      return ({ items := (k, isKey) :: x.items, isList := true }, r)
    | none, _ => none

end

/-- The most brackets that may be opened within one another. -/
def nestingLimit : Nat := 200

/-- Whether a text is a literal. Every character is read in at most four steps. -/
def isLiteral (cs : List Char) : Bool :=
  !cs.contains '\x00' &&
    match items? (4 * cs.length + 4) nestingLimit none (skip true false cs) with
    | some (x, _) => !x.items.isEmpty
    | none => false

end MeshAgent.Literal
