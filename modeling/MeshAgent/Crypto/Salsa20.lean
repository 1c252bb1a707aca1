import MeshAgent.Bytes

/-!
# Salsa20 key streams

The state is a square of sixteen words. A double round mixes its columns and then its rows. With a
24-byte nonce the first sixteen bytes choose a key of their own for the stream.
-/
namespace MeshAgent.Salsa20

structure Quad where
  a : UInt32
  b : UInt32
  c : UInt32
  d : UInt32
deriving DecidableEq, Repr

structure Square where
  r0 : Quad
  r1 : Quad
  r2 : Quad
  r3 : Quad
deriving DecidableEq, Repr

def rotate (w n : UInt32) : UInt32 := (w <<< n) ||| (w >>> (32 - n))

namespace Quad

/-- Every word is changed by the two before it, cyclically. -/
def mix (q : Quad) : Quad :=
  let b := q.b ^^^ rotate (q.a + q.d) 7
  let c := q.c ^^^ rotate (b + q.a) 9
  let d := q.d ^^^ rotate (c + b) 13
  let a := q.a ^^^ rotate (d + c) 18
  ⟨a, b, c, d⟩

def left (q : Quad) : Quad := ⟨q.b, q.c, q.d, q.a⟩
def right (q : Quad) : Quad := ⟨q.d, q.a, q.b, q.c⟩
def add (p q : Quad) : Quad := ⟨p.a + q.a, p.b + q.b, p.c + q.c, p.d + q.d⟩
def toList (q : Quad) : List UInt32 := [q.a, q.b, q.c, q.d]

end Quad

namespace Square

def transpose (s : Square) : Square :=
  ⟨⟨s.r0.a, s.r1.a, s.r2.a, s.r3.a⟩, ⟨s.r0.b, s.r1.b, s.r2.b, s.r3.b⟩,
   ⟨s.r0.c, s.r1.c, s.r2.c, s.r3.c⟩, ⟨s.r0.d, s.r1.d, s.r2.d, s.r3.d⟩⟩

/-- Mixes each row, starting with its word on the diagonal. -/
def mixRows (s : Square) : Square :=
  ⟨s.r0.mix, s.r1.left.mix.right, s.r2.left.left.mix.right.right, s.r3.right.mix.left⟩

def doubleRound (s : Square) : Square := s.transpose.mixRows.transpose.mixRows

def rounds : Nat → Square → Square
  | 0, s => s
  | n + 1, s => rounds n s.doubleRound

def add (s t : Square) : Square :=
  ⟨s.r0.add t.r0, s.r1.add t.r1, s.r2.add t.r2, s.r3.add t.r3⟩

def toList (s : Square) : List UInt32 := s.r0.toList ++ s.r1.toList ++ s.r2.toList ++ s.r3.toList

end Square

/-- Word number `i` of a byte string, lowest byte first. -/
def word (bs : Bytes) (i : Nat) : UInt32 := UInt32.ofNat (Bytes.toNat ((bs.drop (4 * i)).take 4))

def wordBytes (w : UInt32) : Bytes := Bytes.ofNat 4 w.toNat

/-- The square of a 32-byte key and a 16-byte input; the diagonal is constant. -/
def square (key input : Bytes) : Square :=
  ⟨⟨0x61707865, word key 0, word key 1, word key 2⟩,
   ⟨word key 3, 0x3320646e, word input 0, word input 1⟩,
   ⟨word input 2, word input 3, 0x79622d32, word key 4⟩,
   ⟨word key 5, word key 6, word key 7, 0x6b206574⟩⟩

/-- Block number `i` of the stream of a key and an eight-byte nonce. -/
def block (key nonce : Bytes) (i : Nat) : Bytes :=
  let s := square key (nonce ++ Bytes.ofNat 8 i)
  ((s.rounds 10).add s).toList.flatMap wordBytes

/-- The key that a key and sixteen bytes of nonce choose for a stream. -/
def deriveKey (key input : Bytes) : Bytes :=
  let s := (square key input).rounds 10
  [s.r0.a, s.r1.b, s.r2.c, s.r3.d, s.r1.c, s.r1.d, s.r2.a, s.r2.b].flatMap wordBytes

/-- At least `length` bytes of the stream of a key and a 24-byte nonce. -/
def stream (key nonce : Bytes) (length : Nat) : Bytes :=
  let key' := deriveKey key (nonce.take 16)
  (List.range (length / 64 + 1)).flatMap (block key' (nonce.drop 16))

theorem length_block (key nonce : Bytes) (i : Nat) : (block key nonce i).length = 64 := by
  simp [block, Square.toList, Quad.toList, wordBytes]

theorem length_stream (key nonce : Bytes) (length : Nat) :
    (stream key nonce length).length = 64 * (length / 64 + 1) := by
  unfold stream
  generalize length / 64 + 1 = n
  induction n with
  | zero => rfl
  | succ n ih =>
    simp only [List.range_succ, List.flatMap_append, List.length_append, ih]
    simp [length_block]; omega

theorem le_length_stream (key nonce : Bytes) (length : Nat) :
    length ≤ (stream key nonce length).length := by
  rw [length_stream]; omega

end MeshAgent.Salsa20
