import MeshAgent.Bytes

/-!
# Poly1305

A message is cut into blocks of sixteen bytes, read as numbers with one more bit on top, and taken
as the coefficients of a polynomial that is evaluated at a secret point.
-/
namespace MeshAgent.Poly1305

def prime : Nat := Nat.pow 2 130 - 5

/-- The bits of the point that may be set. -/
def clampMask : Nat := 0x0ffffffc0ffffffc0ffffffc0fffffff

/-- Takes up sixteen bytes after the other. A part is a number with a one after its last byte. -/
def absorb (point acc : Nat) : Bytes → Nat
  | [] => acc
  | b :: bs =>
    let part := (b :: bs).take 16
    absorb point ((acc + Bytes.toNat part + Nat.pow 256 part.length) * point % prime)
      (bs.drop 15)
termination_by message => message.length
decreasing_by simp only [List.length_drop, List.length_cons]; omega

/-- The sixteen-byte tag of a message under a 32-byte one-time key. -/
def tag (key message : Bytes) : Bytes :=
  let point := Bytes.toNat (key.take 16) &&& clampMask
  let pad := Bytes.toNat ((key.drop 16).take 16)
  Bytes.ofNat 16 (absorb point 0 message + pad)

@[simp] theorem length_tag (key message : Bytes) : (tag key message).length = 16 := by simp [tag]

end MeshAgent.Poly1305
