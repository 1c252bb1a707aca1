import MeshAgent.Bytes

/-!
# Base64

The standard alphabet with padding. Each refusal has its own cause. Padding after a complete quad
is accepted, and so are non-zero spare bits in the last character of a padded quad.
-/
namespace MeshAgent.Base64

/-- The character of a six-bit number. -/
def charOf (v : Nat) : Char :=
  if v < 26 then Char.ofNat (65 + v)
  else if v < 52 then Char.ofNat (71 + v)
  else if v < 62 then Char.ofNat (v - 4)
  else if v = 62 then '+' else '/'

/-- The six-bit number of a character of the alphabet. -/
def valueOf? (c : Char) : Option Nat :=
  let n := c.toNat
  if 65 ≤ n ∧ n ≤ 90 then some (n - 65)
  else if 97 ≤ n ∧ n ≤ 122 then some (n - 71)
  else if 48 ≤ n ∧ n ≤ 57 then some (n + 4)
  else if c = '+' then some 62
  else if c = '/' then some 63
  else none

def encodeList : Bytes → List Char
  | [] => []
  | [a] =>
    [charOf (a.toNat / 4), charOf (a.toNat % 4 * 16), '=', '=']
  | [a, b] =>
    [charOf (a.toNat / 4), charOf (a.toNat % 4 * 16 + b.toNat / 16), charOf (b.toNat % 16 * 4), '=']
  | a :: b :: c :: rest =>
    charOf (a.toNat / 4) :: charOf (a.toNat % 4 * 16 + b.toNat / 16)
      :: charOf (b.toNat % 16 * 4 + c.toNat / 64) :: charOf (c.toNat % 64) :: encodeList rest

def encode (bs : Bytes) : String := String.ofList (encodeList bs)

/-- Why a text is not base64. -/
inductive Refusal
  | nonAscii
  | leadingPadding
  | excessData
  | foreignCharacter
  | dataAfterPadding
  /-- One data character over a whole number of quads; the field counts them all. -/
  | loneCharacter (count : Nat)
  | incompletePadding
deriving DecidableEq, Repr

def Refusal.message : Refusal → String
  | nonAscii => "string argument should contain only ASCII characters"
  | leadingPadding => "Leading padding not allowed"
  | excessData => "Excess data after padding"
  | foreignCharacter => "Only base64 data is allowed"
  | dataAfterPadding => "Discontinuous padding not allowed"
  | loneCharacter n =>
    "Invalid base64-encoded string: number of data characters ("
      ++ String.ofList (Decimal.write n) ++ ") cannot be 1 more than a multiple of 4"
  | incompletePadding => "Incorrect padding"

/-- What the reader knows in the middle of a text. -/
structure Scan where
  /-- Data characters read so far. -/
  count : Nat := 0
  /-- Bits of the current quad that make no full byte yet. -/
  spare : Nat := 0
  /-- Padding signs since the last data character. -/
  pads : Nat := 0
  /-- A padding sign has been seen. -/
  padded : Bool := false
  /-- Bytes read so far, last first. -/
  out : Bytes := []

/-- Position in the current quad. -/
def Scan.position (s : Scan) : Nat := s.count % 4

/-- Takes a data character with value `v`. -/
def Scan.push (s : Scan) (v : Nat) : Scan :=
  let s' := { s with count := s.count + 1, pads := 0 }
  match s.position with
  | 0 => { s' with spare := v }
  | 1 => { s' with spare := v % 16, out := UInt8.ofNat (s.spare * 4 + v / 16) :: s.out }
  | 2 => { s' with spare := v % 4, out := UInt8.ofNat (s.spare * 16 + v / 4) :: s.out }
  | _ => { s' with spare := 0, out := UInt8.ofNat (s.spare * 64 + v) :: s.out }

def Scan.finish (s : Scan) : Except Refusal Bytes :=
  match s.position with
  | 0 => .ok s.out.reverse
  | 1 => .error (.loneCharacter s.count)
  | _ => .error .incompletePadding

/-- Reads the rest of a text. A quad that its padding completes ends the text. -/
def Scan.run (s : Scan) : List Char → Except Refusal Bytes
  | [] => s.finish
  | c :: r =>
    if c = '=' then
      let s' := { s with pads := s.pads + 1, padded := true }
      if 2 ≤ s.position ∧ 4 ≤ s.position + s'.pads then
        if r.isEmpty then .ok s.out.reverse else .error .excessData
      else s'.run r
    else
      match valueOf? c with
      | none => .error .foreignCharacter
      | some v => if s.padded then .error .dataAfterPadding else (s.push v).run r

def decodeList (cs : List Char) : Except Refusal Bytes :=
  if cs.any (fun c => 128 ≤ c.toNat) then .error .nonAscii
  else if cs.head? = some '=' then .error .leadingPadding
  else ({} : Scan).run cs

def decode (s : String) : Except Refusal Bytes := decodeList s.toList

end MeshAgent.Base64
