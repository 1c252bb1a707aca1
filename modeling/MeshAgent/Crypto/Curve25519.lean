import MeshAgent.Bytes

/-!
# Curve25519

The public key of a private key is the base point times a scalar made of the private key. Only the
first coordinate is kept, so that a ladder of differential additions computes it. Field elements are
natural numbers below the prime.
-/
namespace MeshAgent.Curve25519

def prime : Nat := Nat.pow 2 255 - 19

def add (a b : Nat) : Nat := (a + b) % prime
def sub (a b : Nat) : Nat := (a + (prime - b % prime)) % prime
def mul (a b : Nat) : Nat := a * b % prime

/-- `base ^ e`, by the binary digits of the exponent; `fuel` bounds their number. -/
def pow (base : Nat) : Nat → Nat → Nat
  | 0, _ => 1
  | fuel + 1, e =>
    let half := pow base fuel (e / 2)
    let square := mul half half
    if e % 2 = 1 then mul square base else square

/-- The prime is odd and not divided by the argument, so this power is its inverse; zero stays. -/
def inverse (a : Nat) : Nat := pow a 256 (prime - 2)

/-- Two multiples of a point that differ by the point itself, as fractions. -/
structure Ladder where
  x2 : Nat
  z2 : Nat
  x3 : Nat
  z3 : Nat

def Ladder.swap (l : Ladder) : Ladder := ⟨l.x3, l.z3, l.x2, l.z2⟩

/-- Doubles the first multiple and adds the two. -/
def Ladder.step (x1 : Nat) (l : Ladder) : Ladder :=
  let a := add l.x2 l.z2
  let aa := mul a a
  let b := sub l.x2 l.z2
  let bb := mul b b
  let e := sub aa bb
  let c := add l.x3 l.z3
  let d := sub l.x3 l.z3
  let da := mul d a
  let cb := mul c b
  { x2 := mul aa bb
    z2 := mul e (add aa (mul 121665 e))
    x3 := mul (add da cb) (add da cb)
    z3 := mul x1 (mul (sub da cb) (sub da cb)) }

/-- Takes the bits of the scalar below position `n`, the highest one first. -/
def ladder (x1 scalar : Nat) : Nat → Ladder → Ladder
  | 0, l => l
  | n + 1, l =>
    let l := if scalar.testBit n then (l.swap.step x1).swap else l.step x1
    ladder x1 scalar n l

def multiply (scalar x1 : Nat) : Nat :=
  let l := ladder x1 scalar 255 ⟨1, 0, x1, 1⟩
  mul l.x2 (inverse l.z2)

/-- The scalar of a private key: a multiple of eight with the highest bit at position 254. -/
def scalarOf (privateKey : Bytes) : Nat :=
  privateKey.toNat % Nat.pow 2 254 / 8 * 8 + Nat.pow 2 254

def basePoint : Nat := 9

def publicKey (privateKey : Bytes) : Bytes :=
  Bytes.ofNat 32 (multiply (scalarOf privateKey) basePoint)

@[simp] theorem length_publicKey (k : Bytes) : (publicKey k).length = 32 := by simp [publicKey]

end MeshAgent.Curve25519
