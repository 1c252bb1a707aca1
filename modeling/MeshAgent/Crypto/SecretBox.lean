import MeshAgent.Crypto.Salsa20
import MeshAgent.Crypto.Poly1305

/-!
# Secret boxes

A secret is covered by the key stream of a key and a nonce. The first 32 bytes of the stream are the
one-time key of the tag, which stands in front of the covered secret.
-/
namespace MeshAgent.SecretBox

def keySize : Nat := 32
def nonceSize : Nat := 24
def tagSize : Nat := 16

/-- Covers or uncovers bytes. -/
def cover (stream bytes : Bytes) : Bytes := List.zipWith (· ^^^ ·) bytes stream

def lock (key nonce secret : Bytes) : Bytes :=
  let stream := Salsa20.stream key nonce (32 + secret.length)
  let covered := cover (stream.drop 32) secret
  Poly1305.tag (stream.take 32) covered ++ covered

/-- The secret of a box, if the tag fits. -/
def unlock? (key nonce box : Bytes) : Option Bytes :=
  if box.length < tagSize then none
  else
    let covered := box.drop tagSize
    let stream := Salsa20.stream key nonce (32 + covered.length)
    if Poly1305.tag (stream.take 32) covered = box.take tagSize then
      some (cover (stream.drop 32) covered)
    else none

theorem length_cover {stream bytes : Bytes} (h : bytes.length ≤ stream.length) :
    (cover stream bytes).length = bytes.length := by
  simp [cover]; omega

/-- Covering twice gives the bytes back. -/
theorem cover_cover {stream bytes : Bytes} (h : bytes.length ≤ stream.length) :
    cover stream (cover stream bytes) = bytes := by
  induction bytes generalizing stream with
  | nil => simp [cover]
  | cons b bs ih =>
    cases stream with
    | nil => simp at h
    | cons s ss =>
      have h' : bs.length ≤ ss.length := by simpa using h
      have := ih h'
      simp only [cover, List.zipWith_cons_cons] at this ⊢
      rw [this, UInt8.xor_assoc, UInt8.xor_self, UInt8.xor_zero]

end MeshAgent.SecretBox
