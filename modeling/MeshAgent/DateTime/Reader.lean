import MeshAgent.DateTime.Basic
import MeshAgent.Failure
import MeshAgent.Number.Numeral

/-!
# Reading dates

A text is a date, a date and a time of day, or a number. Numbers are seconds since 1970 in universal
time, or milliseconds if they are too large for that.
-/
namespace MeshAgent.DateTime

/-- Two digits in front. -/
def readTwo? : List Char → Option (Nat × List Char)
  | a :: b :: r =>
    if Decimal.isDigit a ∧ Decimal.isDigit b then some (Decimal.value [a, b], r) else none
  | _ => none

def readFour? : List Char → Option (Nat × List Char)
  | a :: b :: c :: d :: r =>
    if [a, b, c, d].all Decimal.isDigit then some (Decimal.value [a, b, c, d], r) else none
  | _ => none

/-- Drops the given character in front. -/
def dropChar? (c : Char) : List Char → Option (List Char)
  | x :: r => if x = c then some r else none
  | [] => none

/-- A date in front: year, month and day of the calendar. -/
def readDate? (cs : List Char) : Option ((Nat × Nat × Nat) × List Char) := do
  let (year, r) ← readFour? cs
  let (month, r) ← readTwo? (← dropChar? '-' r)
  let (day, r) ← readTwo? (← dropChar? '-' r)
  if 1 ≤ month ∧ month ≤ 12 ∧ 1 ≤ day ∧ day ≤ Calendar.daysInMonth year month then
    some ((year, month, day), r)
  else none

/-- Digits after the point, cut to microseconds. -/
def readMicros? (cs : List Char) : Option (Nat × List Char) :=
  let (ds, r) := cs.span Decimal.isDigit
  if ds.isEmpty then none
  else some (Decimal.value ((ds ++ List.replicate 6 '0').take 6), r)

/-- Seconds and their fraction, if they are given. -/
def readSeconds? : List Char → Option ((Nat × Nat) × List Char)
  | ':' :: r => do
    let (second, r) ← readTwo? r
    if 59 < second then none
    else
      match r with
      | c :: r' =>
        if c = '.' ∨ c = ',' then do
          let (micro, rest) ← readMicros? r'
          some ((second, micro), rest)
        else some ((second, 0), r)
      | [] => some ((second, 0), [])
  | cs => some ((0, 0), cs)

/-- The offset at the end of a text; the minus sign may be the typographic one. -/
def readOffset? : List Char → Option (Option Offset)
  | [] => some none
  | c :: r =>
    if c = 'Z' ∨ c = 'z' then (if r.isEmpty then some (some (.ofMinutes 0)) else none)
    else if c = '+' ∨ c = '-' ∨ c = '−' then do
      let (hours, r) ← readTwo? r
      let (minutes, r) ← readTwo? (match r with | ':' :: r' => r' | _ => r)
      if r.isEmpty ∧ hours ≤ 23 ∧ minutes ≤ 59 then
        let m : Int := hours * 60 + minutes
        some (some (.ofMinutes (if c = '+' then m else -m)))
      else none
    else none

def isSeparator (c : Char) : Bool := c = 'T' || c = 't' || c = ' ' || c = '_'

/-- A date and a time of day. -/
def readFull? (cs : List Char) : Option DateTime := do
  let ((year, month, day), r) ← readDate? cs
  match r with
  | sep :: r =>
    if isSeparator sep then do
      let (hour, r) ← readTwo? r
      let (minute, r) ← readTwo? (← dropChar? ':' r)
      if hour ≤ 23 ∧ minute ≤ 59 then do
        let ((second, micro), r) ← readSeconds? r
        let offset ← readOffset? r
        some { year, month, day, hour, minute, second, micro, offset }
      else none
    else none
  | [] => none

/-- A date alone is the start of its day. -/
def readDay? (cs : List Char) : Option DateTime := do
  let ((year, month, day), r) ← readDate? cs
  if r.isEmpty then
    some { year, month, day, hour := 0, minute := 0, second := 0, micro := 0, offset := none }
  else none

/-- Numbers above this are milliseconds. -/
def secondsLimit : Int := 20000000000

/-- First second of the year 0 and last second of 9999: a number outside has no date. -/
def firstSecond : Int := -62167219200
def lastSecond : Int := 253402300799

/-- A number of seconds or milliseconds, with microseconds added to it. -/
def ofNumber? (n : Int) (micro : Nat) : Option DateTime :=
  let (seconds, extra) : Int × Nat :=
    if n.natAbs ≤ secondsLimit.natAbs then (n, 0) else (n.fdiv 1000, (n.fmod 1000).toNat * 1000)
  let total := micro + extra
  let seconds := seconds + total / 1000000
  if firstSecond ≤ seconds ∧ seconds ≤ lastSecond then some (ofUnix seconds (total % 1000000))
  else none

/-- Whether `mantissa * 2 ^ exponent` is a number of seconds, not of milliseconds. -/
def isSeconds (mantissa exponent : Int) : Bool :=
  -secondsLimit ≤ Binary64.floorOf mantissa exponent &&
    -secondsLimit ≤ Binary64.floorOf (-mantissa) exponent

/-- A number. Its integer part is the one below it, but its fraction is taken off towards zero. -/
def ofBinary? : Binary64 → Option DateTime
  | .finite m e =>
    let fraction := (Binary64.finite m.natAbs e).fraction
    ofNumber? (Binary64.floorOf m e) (fraction.countOf (if isSeconds m e then 1000000 else 1000))
  | _ => none

/-- A number whose fraction is one of a second. -/
def ofSeconds? : Binary64 → Option DateTime
  | .finite m e =>
    ofNumber? (Binary64.floorOf m e) ((Binary64.finite m e).fraction.countOf 1000000)
  | _ => none

/-- A number with a point in a text. If it is too large it is divided by a thousand, and what is still
too large then is divided once more, but for its fraction. -/
def ofPointed? : Binary64 → Option DateTime
  | .finite m e =>
    if isSeconds m e then ofSeconds? (.finite m e)
    else ofSeconds? ((Binary64.finite m e).dividedBy 1000)
  | _ => none

/-- Integers that a 64-bit word holds. -/
def fitsWord (n : Int) : Bool := -9223372036854775808 ≤ n && n ≤ 9223372036854775807

/-- The exponent that ends a number; without one it is zero. -/
def readExponent? : List Char → Option Int
  | [] => some 0
  | c :: r =>
    let (negative, ds) := Numeral.sign r
    if (c = 'e' ∨ c = 'E') ∧ Decimal.isNumeral ds then
      some (if negative then -Decimal.value ds else Decimal.value ds)
    else none

/-- A number in a text: a sign, digits, and possibly a point among them and an exponent behind it. What
stands before the point must fit a word. -/
def readNumeric? (cs : List Char) : Option DateTime :=
  let (negative, r) := Numeral.sign cs
  let (whole, r) := r.span Decimal.isDigit
  if fitsWord (Decimal.value whole) then
    match r with
    | [] =>
      if whole.isEmpty then none
      else ofNumber? (if negative then -Decimal.value whole else Decimal.value whole) 0
    | '.' :: r =>
      let (places, r) := r.span Decimal.isDigit
      if (whole ++ places).isEmpty then none
      else do
        let e ← readExponent? r
        ofPointed?
          (Binary64.ofDecimal negative (Decimal.value (whole ++ places)) (e - places.length))
    | _ => none
  else none

/-- No calendar date lies in the year 0. -/
def checkYear (d : DateTime) : Except FieldProblem DateTime :=
  if d.year = 0 then .error .datetimeParsing else .ok d

/-- Reads a text, or says what is wrong with it. -/
def ofText (cs : List Char) : Except FieldProblem DateTime :=
  match readFull? cs <|> readNumeric? cs <|> readDay? cs with
  | some d => checkYear d
  | none => .error .datetimeFromDate

end MeshAgent.DateTime
