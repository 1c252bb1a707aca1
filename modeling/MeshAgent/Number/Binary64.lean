/-!
# Binary floating point

Numbers with a fraction are held as the nearest 64-bit binary number, an integer times a power of
two. Of two equally near ones the one with an even last bit is taken.
-/
namespace MeshAgent

inductive Binary64
  | nan
  | infinite (negative : Bool)
  /-- The number `mantissa * 2 ^ exponent`. -/
  | finite (mantissa : Int) (exponent : Int)
deriving DecidableEq, Repr

namespace Binary64

/-- `num / den` rounded to an integer, a half to the even neighbour. -/
def roundDiv (num den : Nat) : Nat :=
  let q := num / den
  let r := num % den
  if 2 * r < den then q
  else if den < 2 * r then q + 1
  else if q % 2 = 0 then q else q + 1

/-- `num / den / 2 ^ e` as a fraction. -/
def scale (num den : Nat) (e : Int) : Nat × Nat :=
  if 0 ≤ e then (num, den <<< e.toNat) else (num <<< (-e).toNat, den)

/-- The exponent at which a positive fraction has 53 bits before the point, or the least one. -/
def exponentOf (num den : Nat) : Int :=
  let guess : Int := (num.log2 : Int) - (den.log2 : Int) - 52
  let (n, d) := scale num den guess
  max (-1074) (if n < d <<< 52 then guess - 1 else guess)

/-- The nearest number to a fraction; too large ones are infinite. -/
def ofFraction (negative : Bool) (num den : Nat) : Binary64 :=
  if num = 0 then finite 0 0
  else
    let e := exponentOf num den
    let (n, d) := scale num den e
    let m := roundDiv n d
    if 971 < e ∨ (e = 971 ∧ 1 <<< 53 ≤ m) then infinite negative
    else finite (if negative then -m else m) e

/-- The nearest number to `digits * 10 ^ exponent`. Exponents far out of range are decided before any
power is computed: `digits` has between a quarter and a third as many decimal as binary digits. -/
def ofDecimal (negative : Bool) (digits : Nat) (exponent : Int) : Binary64 :=
  if digits = 0 then finite 0 0
  else if 400 < exponent + digits.log2 / 4 then infinite negative
  else if exponent + digits.log2 / 3 < -400 then finite 0 0
  else if 0 ≤ exponent then ofFraction negative (digits * Nat.pow 10 exponent.toNat) 1
  else ofFraction negative digits (Nat.pow 10 (-exponent).toNat)

/-- The nearest number to an integer. -/
def ofInt (n : Int) : Binary64 := ofFraction (n < 0) n.natAbs 1

/-- The nearest number to `m * 2 ^ e`. -/
def ofDyadic (m e : Int) : Binary64 :=
  if 0 ≤ e then ofFraction (m < 0) (m.natAbs <<< e.toNat) 1
  else ofFraction (m < 0) m.natAbs (1 <<< (-e).toNat)

def add : Binary64 → Binary64 → Binary64
  | finite m e, finite m' e' =>
    let least := min e e'
    ofDyadic (m * (1 <<< (e - least).toNat : Nat) + m' * (1 <<< (e' - least).toNat : Nat)) least
  | infinite a, infinite b => if a = b then infinite a else nan
  | infinite a, finite .. => infinite a
  | finite .., infinite b => infinite b
  | _, _ => nan

def negate : Binary64 → Binary64
  | nan => nan
  | infinite a => infinite !a
  | finite m e => finite (-m) e

/-- A multiple of a number; `none` if the factor is beyond all finite numbers. -/
def times? (x : Binary64) (factor : Nat) : Option Binary64 :=
  match x, ofInt factor with
  | finite m e, finite m' e' => some (ofDyadic (m * m') (e + e'))
  | infinite a, finite .. => some (infinite a)
  | nan, finite .. => some nan
  | _, _ => none

/-- The nearest number to the quotient by a positive integer. -/
def dividedBy (x : Binary64) (n : Nat) : Binary64 :=
  match x with
  | finite m e =>
    if 0 ≤ e then ofFraction (m < 0) (m.natAbs <<< e.toNat) n
    else ofFraction (m < 0) m.natAbs (n <<< (-e).toNat)
  | x => x

/-- Largest integer that is not above `mantissa * 2 ^ exponent`. -/
def floorOf (mantissa exponent : Int) : Int :=
  if 0 ≤ exponent then mantissa * (1 <<< exponent.toNat : Nat)
  else Int.fdiv mantissa (1 <<< (-exponent).toNat : Nat)

/-- The integer that is nearest to `mantissa * 2 ^ exponent`; of two equally near ones the greater. -/
def nearestTo (mantissa exponent : Int) : Int :=
  if 0 ≤ exponent then floorOf mantissa exponent
  else floorOf (2 * mantissa + (1 <<< (-exponent).toNat : Nat)) (exponent - 1)

/-- What a finite number has in excess of the integer below it. -/
def fraction : Binary64 → Binary64
  | finite m e => if 0 ≤ e then finite 0 0 else finite (m % (1 <<< (-e).toNat : Nat)) e
  | x => x

/-- How many times `1 / unit` is in a number, to the nearest integer; none is in a number below zero. -/
def countOf (x : Binary64) (unit : Nat) : Nat :=
  match x.times? unit with
  | some (finite m e) => (nearestTo m e).toNat
  | _ => 0

/-- The integer that a finite number is, if it is one. -/
def toInt? : Binary64 → Option Int
  | finite m e =>
    if 0 ≤ e then some (floorOf m e)
    else if m % (1 <<< (-e).toNat : Nat) = 0 then some (floorOf m e) else none
  | _ => none

end Binary64

end MeshAgent
