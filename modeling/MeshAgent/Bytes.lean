import MeshAgent.Text.Quoted

/-!
# Byte strings

Bytes as little-endian numbers, as lower-case hexadecimal text, and as the UTF-8 form of text.
-/
namespace MeshAgent

abbrev Bytes := List UInt8

namespace Bytes

/-- The low `width` bytes of a number, lowest first. -/
def ofNat : Nat → Nat → Bytes
  | 0, _ => []
  | width + 1, n => UInt8.ofNat n :: ofNat width (n / 256)

/-- The number whose base-256 digits these are, lowest first. -/
def toNat : Bytes → Nat
  | [] => 0
  | b :: bs => b.toNat + 256 * toNat bs

def toNatBig (bs : Bytes) : Nat := toNat bs.reverse

@[simp] theorem length_ofNat (width n : Nat) : (ofNat width n).length = width := by
  induction width generalizing n with
  | zero => rfl
  | succ w ih => simp [ofNat, ih]

def toHex (bs : Bytes) : String :=
  String.ofList (bs.flatMap fun b => Text.hexPad 2 b.toNat)

def hexValue? (c : Char) : Option Nat :=
  if '0' ≤ c ∧ c ≤ '9' then some (c.toNat - 48)
  else if 'a' ≤ c ∧ c ≤ 'f' then some (c.toNat - 87)
  else if 'A' ≤ c ∧ c ≤ 'F' then some (c.toNat - 55)
  else none

def ofHexList? : List Char → Option Bytes
  | [] => some []
  | a :: b :: r => do
    let hi ← hexValue? a
    let lo ← hexValue? b
    return UInt8.ofNat (16 * hi + lo) :: (← ofHexList? r)
  | [_] => none

def ofHex? (s : String) : Option Bytes := ofHexList? s.toList

/-- The UTF-8 form of a text. -/
def ofText (s : String) : Bytes := s.toUTF8.data.toList

/-- The text whose UTF-8 form this is, if there is one. -/
def toText? (bs : Bytes) : Option String := String.fromUTF8? ⟨bs.toArray⟩

theorem toText?_ofText (s : String) : toText? (ofText s) = some s := by
  simp only [toText?, ofText, String.fromUTF8?, String.toUTF8, Array.toArray_toList]
  exact dif_pos s.isValidUTF8

/-- A text has at most as many characters as bytes. -/
theorem length_le_of_toText? {bs : Bytes} {s : String} (h : toText? bs = some s) :
    s.length ≤ bs.length := by
  have hsize : s.utf8ByteSize = bs.length := by
    simp only [toText?, String.fromUTF8?] at h
    split at h
    · obtain rfl := Option.some.inj h
      rfl
    · cases h
  have hle : ∀ t : String, t.length ≤ t.utf8ByteSize := by
    intro t
    induction t using String.push_induction with
    | empty => exact Nat.zero_le _
    | push t c ih =>
      rw [String.length_push, String.utf8ByteSize_push]
      exact Nat.add_le_add ih c.utf8Size_pos
  exact hsize ▸ hle s

end Bytes

end MeshAgent
