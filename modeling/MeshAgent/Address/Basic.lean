import MeshAgent.Bytes

/-!
# Interface addresses

An interface address is an IPv4 or IPv6 address together with the length of its network prefix. An
IPv6 address may name the zone in which it is meant.
-/
namespace MeshAgent

/-- Name of a zone: non-empty, and free of the marks that end it in written form. -/
structure Zone where
  text : String
  nonempty : text ≠ ""
  plain : '%' ∉ text.toList ∧ '/' ∉ text.toList
deriving DecidableEq, Repr

def Zone.ofString? (text : String) : Option Zone :=
  if h : text ≠ "" ∧ ('%' ∉ text.toList ∧ '/' ∉ text.toList) then some ⟨text, h.1, h.2⟩ else none

structure Address4 where
  bits : BitVec 32
  prefixLength : Fin 33
deriving DecidableEq, Repr

structure Address6 where
  bits : BitVec 128
  prefixLength : Fin 129
  zone : Option Zone := none
deriving DecidableEq, Repr

inductive Address
  | v4 (address : Address4)
  | v6 (address : Address6)
deriving DecidableEq, Repr

namespace Address

def version : Address → Nat
  | v4 _ => 4
  | v6 _ => 6

def prefixLength : Address → Nat
  | v4 a => a.prefixLength
  | v6 a => a.prefixLength

/-- The bits of the network: the first `len` of `width` bits are set. -/
def mask (width len : Nat) : BitVec width := ~~~ (BitVec.allOnes width >>> len)

/-- The network an address belongs to: host bits cleared. A zone stays only if there were none. -/
def network : Address → Address
  | v4 a => v4 { a with bits := a.bits &&& mask 32 a.prefixLength }
  | v6 a =>
    let bits := a.bits &&& mask 128 a.prefixLength
    v6 { a with bits, zone := if bits = a.bits then a.zone else none }

/-- The prefix of an address that stands for itself alone. -/
def fullPrefix4 : Fin 33 := ⟨32, by decide⟩
def fullPrefix6 : Fin 129 := ⟨128, by decide⟩

/-- A number as an address with full prefix: IPv4 if it fits, else IPv6. -/
def ofInt? (n : Int) : Option Address :=
  if 0 ≤ n then
    if n.toNat < 1 <<< 32 then some (v4 ⟨BitVec.ofInt 32 n, fullPrefix4⟩)
    else if n.toNat < 1 <<< 128 then some (v6 ⟨BitVec.ofInt 128 n, fullPrefix6, none⟩)
    else none
  else none

/-- Four or sixteen bytes, highest first. -/
def ofPacked? (bs : Bytes) : Option Address :=
  if bs.length = 4 then some (v4 ⟨BitVec.ofNat 32 bs.toNatBig, fullPrefix4⟩)
  else if bs.length = 16 then some (v6 ⟨BitVec.ofNat 128 bs.toNatBig, fullPrefix6, none⟩)
  else none

end Address

end MeshAgent
