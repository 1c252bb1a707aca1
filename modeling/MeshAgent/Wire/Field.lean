import MeshAgent.Address.Parser
import MeshAgent.DateTime.Reader
import MeshAgent.Datum
import MeshAgent.Text.Blank
import MeshAgent.Wire.Checked

/-!
# Reading fields

Each type of field has a reader. The readers are generous where no meaning can be lost: numbers may
be given as text, truth values as words, and addresses as numbers.
-/
namespace MeshAgent.Field

def text : Datum → Checked String
  | .text s => .ok s
  | .bytes b => match Bytes.toText? b with
    | some s => .ok s
    | none => .wrong .stringUnicode
  | _ => .wrong .stringType

/-- Digits with single underscores between them, the underscores dropped. -/
def readDigits? : List Char → Option (List Char)
  | [] => none
  | [c] => if Decimal.isDigit c then some [c] else none
  | c :: '_' :: r => if Decimal.isDigit c then (readDigits? r).map (c :: ·) else none
  | c :: r => if Decimal.isDigit c then (readDigits? r).map (c :: ·) else none

/-- Drops a point that is followed by zeros only. -/
def dropZeroFraction? (cs : List Char) : Option (List Char) :=
  match Text.cutFirst '.' cs with
  | (whole, none) => some whole
  | (whole, some zeros) => if zeros.isEmpty ∨ zeros.any (· ≠ '0') then none else some whole

/-- An integer in a text: blanks around it, a sign, digits, and possibly a fraction of zeros. Zeros may
stand in front unless there is a minus. -/
def readInt (s : String) : Except FieldProblem Int :=
  let cs := Text.trim Text.isWhiteSpace s.toList
  let (negative, cs) := match cs with
    | '-' :: r => (true, r)
    | '+' :: r => (false, r)
    | r => (false, r)
  match (dropZeroFraction? cs).bind readDigits? with
  | none => .error .intParsing
  | some ds =>
    if negative ∧ ds.head? = some '0' ∧ 1 < ds.length then .error .intParsing
    else if Decimal.digitLimit < (ds.dropWhile (· = '0')).length then .error .intParsingSize
    else
      let n : Int := Decimal.value ds
      .ok (if negative then -n else n)

/-- A number as an integer; it may have no fraction and must fit a 64-bit word. -/
def intOfBinary (x : Binary64) : Except FieldProblem Int :=
  match x with
  | .finite _ _ =>
    match x.toInt? with
    | some n => if -9223372036854775808 < n ∧ n < 9223372036854775808 then .ok n else .error .intParsingSize
    | none => .error .intFromFloat
  | _ => .error .finiteNumber

def int : Datum → Checked Int
  | .int n => .ok n
  | .bool b => .ok (if b then 1 else 0)
  | .real x => .ofExcept (intOfBinary x)
  | .text s => .ofExcept (readInt s)
  | .bytes b => match Bytes.toText? b with
    | some s => .ofExcept (readInt s)
    | none => .wrong .intParsing
  | _ => .wrong .intType

/-- The words for true and false, in any case. -/
def readBool (s : String) : Except FieldProblem Bool :=
  let w := String.ofList (s.toList.map Text.lowerAscii)
  if w ∈ ["1", "t", "y", "on", "yes", "true"] then .ok true
  else if w ∈ ["0", "f", "n", "no", "off", "false"] then .ok false
  else .error .boolParsing

def bool : Datum → Checked Bool
  | .bool b => .ok b
  | .int n =>
    if n = 1 then .ok true
    else if n = 0 then .ok false
    else if DateTime.fitsWord n then .wrong .boolParsing
    else .wrong .boolType
  | .real x =>
    match x.toInt? with
    | some 1 => .ok true
    | some 0 => .ok false
    | _ => .wrong .boolType
  | .text s => .ofExcept (readBool s)
  | .bytes b => match Bytes.toText? b with
    | some s => .ofExcept (readBool s)
    | none => .wrong .boolParsing
  | _ => .wrong .boolType

/-- Bytes as they travel: base64 text. -/
def base64 : Datum → Checked Bytes
  | .bytes b => .ok b
  | .text s => match Base64.decode s with
    | .ok b => .ok b
    | .error r => .wrong (.base64 r)
  | _ => .wrong .bytesType

/-- Bytes as they are held: a text stands for its UTF-8 form. -/
def bytes : Datum → Checked Bytes
  | .bytes b => .ok b
  | .text s => .ok (Bytes.ofText s)
  | _ => .wrong .bytesType

def address (d : Datum) : Checked Address :=
  let found := match d with
    | .text s => Address.ofText? s
    | .int n => Address.ofInt? n
    | .bool b => Address.ofInt? (if b then 1 else 0)
    | .bytes b => Address.ofPacked? b
    | _ => none
  match found with
  | some a => .ok a
  | none => .wrong .addressType

/-- Whether a record comes from a text or from a caller. -/
inductive Source
  | wire
  | caller
deriving DecidableEq, Repr

/-- On the wire a number that no 64-bit word holds is no date at all; a caller's is out of range. Only a
caller has dates that need not be read. -/
def dateTime (source : Source) : Datum → Checked DateTime
  | .text s => .ofExcept (DateTime.ofText s.toList)
  | .bytes b => match Bytes.toText? b with
    | some s => .ofExcept (DateTime.ofText s.toList)
    | none => .wrong .datetimeFromDate
  | .int n =>
    if DateTime.fitsWord n then ofOption (DateTime.ofNumber? n 0)
    else .wrong (if source = .wire then .datetimeType else .datetimeParsing)
  | .real x => ofOption (DateTime.ofBinary? x)
  | .time d => if source = .caller ∧ d.Valid then .ok d else .wrong .datetimeType
  | _ => .wrong .datetimeType
where
  ofOption : Option DateTime → Checked DateTime
    | some d => .ofExcept (DateTime.checkYear d)
    | none => .wrong .datetimeParsing

/-- A field that may be `null`. -/
def nullable {α : Type} (read : Datum → Checked α) : Datum → Checked (Option α)
  | .null => .ok none
  | d => (read d).map some

def itemsFrom {α : Type} (read : Datum → Checked α) : Nat → List Datum → Checked (List α)
  | _, [] => .ok []
  | i, d :: ds => List.cons <$> (read d).under (.index i) <*> itemsFrom read (i + 1) ds

/-- A list whose items are all read. -/
def list {α : Type} (read : Datum → Checked α) : Datum → Checked (List α)
  | .list items => itemsFrom read 0 items
  | _ => .wrong .listType

abbrev Fields := List (String × Datum)

/-- A nested record. -/
def record {α : Type} (read : Fields → Checked α) : Datum → Checked α
  | .record fields => read fields
  | _ => .wrong .modelType

/-- The value of a field and the name it was found under: its wire name, else its own. -/
def find? (wire own : String) (fields : Fields) : Option (String × Datum) :=
  match Datum.find? fields wire with
  | some d => some (wire, d)
  | none => (Datum.find? fields own).map (own, ·)

def required {α : Type} (wire own : String) (read : Datum → Checked α) (fields : Fields) :
    Checked α :=
  match find? wire own fields with
  | some (name, d) => (read d).under (.field name)
  | none => (Checked.wrong .missing).under (.field wire)

def optional {α : Type} (wire own : String) (default : α) (read : Datum → Checked α)
    (fields : Fields) : Checked α :=
  match find? wire own fields with
  | some (name, d) => (read d).under (.field name)
  | none => .ok default

end MeshAgent.Field
