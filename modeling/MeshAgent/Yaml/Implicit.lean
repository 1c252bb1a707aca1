import MeshAgent.Text.Decimal
import MeshAgent.Text.Split

/-!
# What a plain scalar is

The text of a plain scalar decides whether it is a number, a truth value, a date, null, or a text.
Each class of texts is a predicate, and the first class that a text is in counts.
-/
namespace MeshAgent.Yaml

namespace Tag

def standard : String := "tag:yaml.org,2002:"
def null : String := "tag:yaml.org,2002:null"
def bool : String := "tag:yaml.org,2002:bool"
def int : String := "tag:yaml.org,2002:int"
def float : String := "tag:yaml.org,2002:float"
def text : String := "tag:yaml.org,2002:str"
def timestamp : String := "tag:yaml.org,2002:timestamp"
def merge : String := "tag:yaml.org,2002:merge"
def value : String := "tag:yaml.org,2002:value"
def binary : String := "tag:yaml.org,2002:binary"
def sequence : String := "tag:yaml.org,2002:seq"
def mapping : String := "tag:yaml.org,2002:map"
def set : String := "tag:yaml.org,2002:set"
def pairs : String := "tag:yaml.org,2002:pairs"
def orderedMap : String := "tag:yaml.org,2002:omap"
/-- Of the three signs that stand for YAML itself; no value has it. -/
def sign : String := "tag:yaml.org,2002:yaml"

end Tag

namespace Implicit

def dropSign : List Char → List Char
  | '+' :: r => r
  | '-' :: r => r
  | cs => cs

def isDigit (c : Char) : Bool := Decimal.isDigit c
def isDigitOrUnderscore (c : Char) : Bool := isDigit c || c = '_'

/-- Digits and underscores after a first digit. -/
def startsWithDigit (cs : List Char) : Bool := cs.head?.any isDigit

/-- Parts after the first one of a number in base sixty. -/
def isSixtieth : List Char → Bool
  | [a] => isDigit a
  | [a, b] => '0' ≤ a && a ≤ '5' && isDigit b
  | _ => false

/-- An integer in base two, eight, ten, sixteen or sixty, with underscores. -/
def isInt (cs : List Char) : Bool :=
  match dropSign cs with
  | ['0'] => true
  | '0' :: 'b' :: r => !r.isEmpty && r.all fun c => c = '0' || c = '1' || c = '_'
  | '0' :: 'x' :: r =>
    !r.isEmpty && r.all fun c =>
      isDigitOrUnderscore c || ('a' ≤ c && c ≤ 'f') || ('A' ≤ c && c ≤ 'F')
  | '0' :: r => !r.isEmpty && r.all fun c => ('0' ≤ c && c ≤ '7') || c = '_'
  | cs =>
    match Text.pieces ':' cs with
    | first :: rest =>
      startsWithDigit first && first.all isDigitOrUnderscore && rest.all isSixtieth
    | [] => false

/-- An exponent, which must have a sign, or nothing. -/
def isExponent : List Char → Bool
  | [] => true
  | e :: s :: r =>
    (e = 'e' || e = 'E') && (s = '+' || s = '-') && !r.isEmpty && r.all isDigit
  | _ => false

def isInfinity (cs : List Char) : Bool :=
  ["inf", "Inf", "INF"].any fun w => cs = '.' :: w.toList

def isNan (cs : List Char) : Bool := ["nan", "NaN", "NAN"].any fun w => cs = '.' :: w.toList

/-- A number with a point, in base ten or sixty, or infinity, or no number. -/
def isFloat (cs : List Char) : Bool :=
  let u := dropSign cs
  isInfinity u || isNan cs ||
    match Text.cutFirst '.' u with
    | (_, none) => false
    | (whole, some r) =>
      let fraction := r.takeWhile isDigitOrUnderscore
      let exponent := r.dropWhile isDigitOrUnderscore
      if whole.isEmpty then
        cs.head? = some '.' && startsWithDigit fraction && isExponent exponent
      else
        match Text.pieces ':' whole with
        | [w] => startsWithDigit w && w.all isDigitOrUnderscore && isExponent exponent
        | w :: rest =>
          startsWithDigit w && w.all isDigitOrUnderscore && rest.all isSixtieth
            && exponent.isEmpty
        | [] => false

def boolWords : List String :=
  ["yes", "Yes", "YES", "no", "No", "NO", "true", "True", "TRUE", "false", "False", "FALSE",
   "on", "On", "ON", "off", "Off", "OFF"]

def isBool (s : String) : Bool := boolWords.contains s

def isNull (s : String) : Bool := ["", "~", "null", "Null", "NULL"].contains s

/-- Parts of a date and time, as they are written. -/
structure TimeParts where
  year : Nat
  month : Nat
  day : Nat
  hour : Nat := 0
  minute : Nat := 0
  second : Nat := 0
  /-- Minutes of the offset. -/
  offset : Nat := 0
deriving Repr

/-- One or two digits, or exactly two, as a number. -/
def digits? (least most : Nat) (cs : List Char) : Option (Nat × List Char) :=
  let ds := (cs.takeWhile isDigit).take most
  if ds.length < least then none else some (Decimal.value ds, cs.drop ds.length)

def char? (x : Char) : List Char → Option (List Char)
  | c :: r => if c = x then some r else none
  | [] => none

def isTabOrSpace (c : Char) : Bool := c = ' ' || c = '\t'

/-- A zone at the end: nothing, `Z`, or an offset of hours and possibly minutes. -/
def zone? (cs : List Char) : Option Nat :=
  if cs.isEmpty then some 0
  else
    match cs.dropWhile isTabOrSpace with
    | ['Z'] => some 0
    | s :: r =>
      if s = '+' ∨ s = '-' then do
        let (h, r) ← digits? 1 2 r
        match r with
        | [] => some (60 * h)
        | ':' :: r => do
          let (m, r) ← digits? 2 2 r
          if r.isEmpty then some (60 * h + m) else none
        | _ => none
      else none
    | [] => none

/-- A date, or a date and a time of day. -/
def timeParts? (cs : List Char) : Option TimeParts := do
  let (year, r) ← digits? 4 4 cs
  let r ← char? '-' r
  let (month, r) ← digits? 1 2 r
  let r ← char? '-' r
  let (day, r) ← digits? 1 2 r
  if r.isEmpty then some { year, month, day }
  else
    let r ← match r with
      | 'T' :: r => some r
      | 't' :: r => some r
      | c :: r => if isTabOrSpace c then some (r.dropWhile isTabOrSpace) else none
      | [] => none
    let (hour, r) ← digits? 1 2 r
    let r ← char? ':' r
    let (minute, r) ← digits? 2 2 r
    let r ← char? ':' r
    let (second, r) ← digits? 2 2 r
    let r := match r with
      | '.' :: r => r.dropWhile isDigit
      | r => r
    let offset ← zone? r
    some { year, month, day, hour, minute, second, offset }

/-- A date without a time of day is a time only if all of its digits are given. -/
def isTime (cs : List Char) : Bool := 10 ≤ cs.length && (timeParts? cs).isSome

/-- A line end at the end of a text does not count. -/
def dropFinalBreak (cs : List Char) : List Char :=
  if cs.getLast? = some '\n' then cs.dropLast else cs

end Implicit

open Implicit in
/-- The tag of a plain scalar, and of others that are read like one. -/
def implicitTag (s : String) : String :=
  let cs := dropFinalBreak s.toList
  let t := String.ofList cs
  if t = "" && s ≠ "" then Tag.text
  else if isBool t then Tag.bool
  else if isFloat cs then Tag.float
  else if isInt cs then Tag.int
  else if t = "<<" then Tag.merge
  else if isNull t then Tag.null
  else if isTime cs then Tag.timestamp
  else if t = "=" then Tag.value
  else if ["!", "&", "*"].contains t then Tag.sign
  else Tag.text

end MeshAgent.Yaml
