import MeshAgent.Address.Basic
import MeshAgent.Text.Split

/-!
# Written form of addresses

IPv4 addresses are four decimal octets. IPv6 addresses are eight groups in lower-case hexadecimal,
the longest run of two or more zero groups left out, the first one if several are equally long.
-/
namespace MeshAgent.Address

/-- The four octets, highest first. -/
def octets (bits : BitVec 32) : List Nat :=
  [24, 16, 8, 0].map fun i => (bits.toNat >>> i) % 256

/-- The eight groups, highest first. -/
def groups (bits : BitVec 128) : List Nat :=
  [112, 96, 80, 64, 48, 32, 16, 0].map fun i => (bits.toNat >>> i) % 65536

/-- Hexadecimal digits without leading zeros, for a number below 65536. -/
def writeGroup (n : Nat) : List Char :=
  if n < 16 then Text.hexPad 1 n
  else if n < 256 then Text.hexPad 2 n
  else if n < 4096 then Text.hexPad 3 n
  else Text.hexPad 4 n

def leadingZeros (gs : List Nat) : Nat := (gs.takeWhile (· = 0)).length

/-- Where the longest run of zeros starts and how long it is; the first one of equals. -/
def longestZeros : List Nat → Nat × Nat
  | [] => (0, 0)
  | g :: gs =>
    let here := leadingZeros (g :: gs)
    let later := longestZeros gs
    if later.2 ≤ here then (0, here) else (later.1 + 1, later.2)

def writeGroups (gs : List Nat) : List Char :=
  let all := fun gs => Text.join [':'] (gs.map writeGroup)
  let run := longestZeros gs
  if 2 ≤ run.2 then all (gs.take run.1) ++ [':', ':'] ++ all (gs.drop (run.1 + run.2)) else all gs

def writeBits4 (bits : BitVec 32) : List Char :=
  Text.join ['.'] ((octets bits).map Decimal.write)

def writeBits6 (bits : BitVec 128) : List Char := writeGroups (groups bits)

def writeZone : Option Zone → List Char
  | none => []
  | some z => '%' :: z.text.toList

/-- The address alone, without zone and prefix. -/
def hostText : Address → String
  | v4 a => String.ofList (writeBits4 a.bits)
  | v6 a => String.ofList (writeBits6 a.bits)

def write : Address → List Char
  | v4 a => writeBits4 a.bits ++ '/' :: Decimal.write a.prefixLength
  | v6 a => writeBits6 a.bits ++ writeZone a.zone ++ '/' :: Decimal.write a.prefixLength

/-- An address as it is stored and sent. -/
def text (a : Address) : String := String.ofList a.write

instance : ToString Address := ⟨text⟩

end MeshAgent.Address
