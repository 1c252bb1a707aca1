import MeshAgent.Datum
import MeshAgent.Text.Split

/-!
# Reading JSON

Strict JSON, except that `NaN`, `Infinity` and `-Infinity` are numbers. Raw control characters and
halves of surrogate pairs are refused, and so is a text whose non-empty lists and records are nested
more deeply than a limit.
-/
namespace MeshAgent.Json

/-- Nesting that a received text may have. -/
def nestingLimit : Nat := 200

def isBlank (c : Char) : Bool := c = ' ' || c = '\t' || c = '\n' || c = '\r'

def skipBlanks (cs : List Char) : List Char := cs.dropWhile isBlank

/-- Four hexadecimal digits. -/
def readHex4? (a b c d : Char) : Option Nat := do
  let a ← Bytes.hexValue? a
  let b ← Bytes.hexValue? b
  let c ← Bytes.hexValue? c
  let d ← Bytes.hexValue? d
  some (((a * 16 + b) * 16 + c) * 16 + d)

/-- The character of a one-letter escape. -/
def unescape? (c : Char) : Option Char :=
  if c = '"' ∨ c = '\\' ∨ c = '/' then some c
  else if c = 'b' then some '\x08'
  else if c = 'f' then some '\x0c'
  else if c = 'n' then some '\n'
  else if c = 'r' then some '\r'
  else if c = 't' then some '\t'
  else none

/-- The character of a pair of surrogates. -/
def joinSurrogates? (hi lo : Nat) : Option Char :=
  if 0xDC00 ≤ lo ∧ lo < 0xE000 then
    some (Char.ofNat (0x10000 + (hi - 0xD800) * 0x400 + (lo - 0xDC00)))
  else none

/-- Reads up to the closing quote. -/
def readText? : List Char → Option (List Char × List Char)
  | [] => none
  | '"' :: r => some ([], r)
  | '\\' :: 'u' :: a :: b :: c :: d :: r => do
    let n ← readHex4? a b c d
    if 0xDC00 ≤ n ∧ n < 0xE000 then none
    else if 0xD800 ≤ n ∧ n < 0xDC00 then
      match r with
      | '\\' :: 'u' :: a :: b :: c :: d :: r' => do
        let x ← joinSurrogates? n (← readHex4? a b c d)
        let (cs, rest) ← readText? r'
        some (x :: cs, rest)
      | _ => none
    else
      let (cs, rest) ← readText? r
      some (Char.ofNat n :: cs, rest)
  | '\\' :: e :: r => do
    let x ← unescape? e
    let (cs, rest) ← readText? r
    some (x :: cs, rest)
  | c :: r =>
    if c.toNat < 32 then none
    else do
      let (cs, rest) ← readText? r
      some (c :: cs, rest)
termination_by cs => cs.length

/-- The longest run of digits in front. -/
def readDigits (cs : List Char) : List Char × List Char := cs.span Decimal.isDigit

/-- The part after the point, if there is a point. -/
def readFraction? : List Char → Option (List Char × List Char)
  | '.' :: r =>
    let (ds, rest) := readDigits r
    if ds.isEmpty then none else some (ds, rest)
  | cs => some ([], cs)

/-- The exponent, if there is one. -/
def readExponent? : List Char → Option (Option Int × List Char)
  | c :: r =>
    if c = 'e' ∨ c = 'E' then
      let (negative, r) := match r with
        | '+' :: r => (false, r)
        | '-' :: r => (true, r)
        | r => (false, r)
      let (ds, rest) := readDigits r
      if ds.isEmpty then none
      else
        let n : Int := Decimal.value ds
        some (some (if negative then -n else n), rest)
    else some (none, c :: r)
  | [] => some (none, [])

/-- A number after its sign. An integer with a leading zero is refused. -/
def readNumber? (negative : Bool) (cs : List Char) : Option (Datum × List Char) := do
  let (whole, r) := readDigits cs
  if whole.isEmpty ∨ (whole.head? = some '0' ∧ 1 < whole.length) then none
  else
    let (fraction, r) ← readFraction? r
    let (exponent, r) ← readExponent? r
    match fraction, exponent with
    | [], none =>
      if Decimal.digitLimit < whole.length then none
      else
        let n : Int := Decimal.value whole
        some (.int (if negative then -n else n), r)
    | _, _ =>
      let e := exponent.getD 0 - fraction.length
      some (.real (Binary64.ofDecimal negative (Decimal.value (whole ++ fraction)) e), r)

/-- A value that is no list, record or text. -/
def readScalar? (cs : List Char) : Option (Datum × List Char) :=
  match cs with
  | 'n' :: _ => (Text.dropWord? "null".toList cs).map (Datum.null, ·)
  | 't' :: _ => (Text.dropWord? "true".toList cs).map (Datum.bool true, ·)
  | 'f' :: _ => (Text.dropWord? "false".toList cs).map (Datum.bool false, ·)
  | 'N' :: _ => (Text.dropWord? "NaN".toList cs).map (Datum.real .nan, ·)
  | 'I' :: _ => (Text.dropWord? "Infinity".toList cs).map (Datum.real (.infinite false), ·)
  | '-' :: 'I' :: r => (Text.dropWord? "nfinity".toList r).map (Datum.real (.infinite true), ·)
  | '-' :: r => readNumber? true r
  | _ => readNumber? false cs

mutual

/-- Reads one value. The fuel bounds the calls; every call but the first follows a character. -/
def readValue? : Nat → Nat → List Char → Option (Datum × List Char)
  | 0, _, _ => none
  | fuel + 1, depth, cs =>
    match skipBlanks cs with
    | '"' :: r => (readText? r).map fun (s, rest) => (.text (String.ofList s), rest)
    | '[' :: r =>
      match skipBlanks r with
      | ']' :: rest => some (.list [], rest)
      | r =>
        match depth with
        | 0 => none
        | depth + 1 => (readItems? fuel depth r).map fun (ds, rest) => (.list ds, rest)
    | '{' :: r =>
      match skipBlanks r with
      | '}' :: rest => some (.record [], rest)
      | r =>
        match depth with
        | 0 => none
        | depth + 1 => (readFields? fuel depth r).map fun (fs, rest) => (.record fs, rest)
    | r => readScalar? r

/-- Reads the items of a list, up to its closing bracket. -/
def readItems? : Nat → Nat → List Char → Option (List Datum × List Char)
  | 0, _, _ => none
  | fuel + 1, depth, cs => do
    let (d, r) ← readValue? fuel depth cs
    match skipBlanks r with
    | ']' :: rest => some ([d], rest)
    | ',' :: r =>
      let (ds, rest) ← readItems? fuel depth r
      some (d :: ds, rest)
    | _ => none

/-- Reads the fields of a record, up to its closing brace. -/
def readFields? : Nat → Nat → List Char → Option (List (String × Datum) × List Char)
  | 0, _, _ => none
  | fuel + 1, depth, cs => do
    match skipBlanks cs with
    | '"' :: r =>
      let (name, r) ← readText? r
      match skipBlanks r with
      | ':' :: r =>
        let (d, r) ← readValue? fuel depth r
        match skipBlanks r with
        | '}' :: rest => some ([(String.ofList name, d)], rest)
        | ',' :: r =>
          let (fs, rest) ← readFields? fuel depth r
          some ((String.ofList name, d) :: fs, rest)
        | _ => none
      | _ => none
    | _ => none

end

/-- Reads a whole text as one value, nested at most `depth` deep. -/
def readWithin? (depth : Nat) (cs : List Char) : Option Datum :=
  match readValue? (2 * cs.length + 2) depth cs with
  | some (d, rest) => if (skipBlanks rest).isEmpty then some d else none
  | none => none

/-- Reads a received text. -/
def read? (s : String) : Option Datum := readWithin? nestingLimit s.toList

/-- Reads a received text given as bytes, which must be UTF-8. -/
def readBytes? (bs : Bytes) : Option Datum := (Bytes.toText? bs).bind read?

end MeshAgent.Json
