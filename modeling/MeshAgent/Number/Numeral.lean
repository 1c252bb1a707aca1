import MeshAgent.Bytes
import MeshAgent.Number.Binary64
import MeshAgent.Text.Blank
import MeshAgent.Text.Decimal
import MeshAgent.Text.Digit
import MeshAgent.Text.Split

/-!
# Numerals

Numbers as they are spelled by hand: with blanks around them, a sign, and digits of any script.
-/
namespace MeshAgent.Numeral

/-- Splits off a sign; `true` is minus. -/
def sign : List Char → Bool × List Char
  | '-' :: r => (true, r)
  | '+' :: r => (false, r)
  | cs => (false, cs)

def digit? (c : Char) : Option Nat :=
  match Bytes.hexValue? c with
  | some d => some d
  | none => Text.digitValue? c

/-- Digits in a base, at least one. -/
def inBase? (base : Nat) (cs : List Char) : Option Nat :=
  if cs.isEmpty then none
  else cs.foldlM (fun acc c => do
    let d ← digit? c
    if d < base then some (acc * base + d) else none) 0

/-- Drops a zero and the letter of a base, which may stand in front of its digits. -/
def dropBase (base : Nat) (cs : List Char) : List Char :=
  let letter := match base with
    | 2 => 'b'
    | 8 => 'o'
    | _ => 'x'
  match cs with
  | '0' :: c :: r => if base ≠ 10 ∧ Text.lowerAscii c = letter then r else cs
  | _ => cs

/-- An integer in base two, eight, ten or sixteen. Only in base ten is there a limit to its digits. -/
def int? (base : Nat) (cs : List Char) : Option Int := do
  let (negative, cs) := sign (Text.trim Text.isBlank cs)
  if base = 10 ∧ Decimal.digitLimit < cs.length then none
  else
    let n ← inBase? base (dropBase base cs)
    some (if negative then -n else n)

def isNumeral (cs : List Char) : Bool := !cs.isEmpty && cs.all fun c => (Text.digitValue? c).isSome

/-- Digits with a point anywhere among them, as digits and the number of those after the point. -/
def mantissa? (cs : List Char) : Option (List Char × Nat) :=
  match Text.cutFirst '.' cs with
  | (whole, none) => if isNumeral whole then some (whole, 0) else none
  | (whole, some fraction) =>
    let digits := whole ++ fraction
    if isNumeral digits then some (digits, fraction.length) else none

def decimal? (negative : Bool) (cs : List Char) : Option Binary64 := do
  let (m, e) := Text.cutFirst 'e' cs
  let (digits, places) ← mantissa? m
  let e : Int ← match e with
    | none => some 0
    | some t =>
      let (negative, ds) := sign t
      if isNumeral ds then
        let n : Int := Text.decimalValue ds
        some (if negative then -n else n)
      else none
  some (Binary64.ofDecimal negative (Text.decimalValue digits) (e - places))

/-- A number with a fraction. Its letters are in lower case. -/
def real? (cs : List Char) : Option Binary64 :=
  let (negative, cs) := sign (Text.trim Text.isBlank cs)
  if cs = "inf".toList ∨ cs = "infinity".toList then some (.infinite negative)
  else if cs = "nan".toList then some .nan
  else decimal? negative cs

end MeshAgent.Numeral
