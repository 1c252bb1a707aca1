import MeshAgent.Address.Printer
import MeshAgent.Failure

/-!
# Reading addresses

An address may stand without a prefix, which then is the full one. The prefix of an IPv4 address may
be given as a mask of its network or of its host bits; a mask that could be both is of the network.
-/
namespace MeshAgent.Address

/-- Up to three digits, no leading zero, at most 255. -/
def readOctet? (cs : List Char) : Option Nat :=
  if Decimal.isNumeral cs ∧ cs.length ≤ 3 ∧ (cs = ['0'] ∨ cs.head? ≠ some '0') then
    let n := Decimal.value cs
    if n ≤ 255 then some n else none
  else none

def readBits4? (cs : List Char) : Option (BitVec 32) := do
  let ns ← (Text.pieces '.' cs).mapM readOctet?
  if ns.length = 4 then some (BitVec.ofNat 32 (ns.foldl (fun acc n => acc * 256 + n) 0)) else none

/-- Up to four hexadecimal digits of either case. -/
def readGroup? (cs : List Char) : Option Nat :=
  if cs.isEmpty ∨ 4 < cs.length then none
  else return (← cs.mapM Bytes.hexValue?).foldl (fun acc d => acc * 16 + d) 0

/-- The group a text stands for; an empty text is no group. -/
def readPart? (cs : List Char) : Option (Option Nat) :=
  if cs.isEmpty then some none else (readGroup? cs).map some

/-- The groups that texts between colons stand for. The last text may be an IPv4 address. -/
def readParts? : List (List Char) → Option (List (Option Nat))
  | [] => some []
  | [p] =>
    if p.contains '.' then do
      let tail ← readBits4? p
      some [some (tail.toNat / 65536), some (tail.toNat % 65536)]
    else (readPart? p).map ([·])
  | p :: q :: ps => do
    let g ← readPart? p
    let gs ← readParts? (q :: ps)
    some (g :: gs)

/-- Cuts at the first empty group that has a group after it. -/
def cutGap : List (Option Nat) → Option (List (Option Nat) × List (Option Nat))
  | [] => none
  | [_] => none
  | none :: rest => some ([], rest)
  | some g :: rest => (cutGap rest).map fun (before, after) => (some g :: before, after)

/-- The groups on one side of a gap. A gap at the edge leaves an empty group there. -/
def side? (gs : List (Option Nat)) : Option (List Nat) :=
  if gs = [none] then some [] else gs.mapM id

/-- The eight groups of an address; a gap stands for one or more zeros. -/
def assemble? : List (Option Nat) → Option (List Nat)
  | [] => none
  | first :: rest =>
    match cutGap rest with
    | none => do
      let gs ← (first :: rest).mapM id
      if gs.length = 8 then some gs else none
    | some (before, after) => do
      let hi ← side? (first :: before)
      let lo ← side? after
      if hi.length + lo.length < 8 then
        some (hi ++ List.replicate (8 - (hi.length + lo.length)) 0 ++ lo)
      else none

def readBits6? (cs : List Char) : Option (BitVec 128) := do
  let parts := Text.pieces ':' cs
  if parts.length < 3 then none
  else
    let gs ← assemble? (← readParts? parts)
    some (BitVec.ofNat 128 (gs.foldl (fun acc g => acc * 65536 + g) 0))

/-- A prefix length in decimal; leading zeros do not matter. -/
def readPrefix? (limit : Nat) (cs : List Char) : Option (Fin (limit + 1)) :=
  if Decimal.isNumeral cs ∧ cs.length ≤ Decimal.digitLimit then
    if h : Decimal.value cs < limit + 1 then some ⟨Decimal.value cs, h⟩ else none
  else none

/-- The prefix length whose network mask is `bits`. -/
def lengthOfMask? (bits : BitVec 32) : Option (Fin 33) :=
  (List.finRange 33).find? fun len => mask 32 len = bits

/-- A prefix length written as a number, a network mask or a host mask. -/
def readPrefix4? (cs : List Char) : Option (Fin 33) :=
  match readPrefix? 32 cs with
  | some n => some n
  | none => do
    let bits ← readBits4? cs
    lengthOfMask? bits <|> lengthOfMask? (~~~ bits)

/-- Cuts off the prefix; a second slash is never allowed. -/
def cutPrefix? (cs : List Char) : Option (List Char × Option (List Char)) :=
  match Text.cutFirst '/' cs with
  | (host, none) => some (host, none)
  | (host, some len) => if len.contains '/' then none else some (host, some len)

def read4? (cs : List Char) : Option Address4 := do
  let (host, len) ← cutPrefix? cs
  let bits ← readBits4? host
  let len ← match len with
    | none => some fullPrefix4
    | some t => readPrefix4? t
  some ⟨bits, len⟩

def readZone? : Option (List Char) → Option (Option Zone)
  | none => some none
  | some cs => (Zone.ofString? (String.ofList cs)).map some

def read6? (cs : List Char) : Option Address6 := do
  let (host, len) ← cutPrefix? cs
  let (host, zone) := Text.cutFirst '%' host
  let zone ← readZone? zone
  let bits ← readBits6? host
  let len ← match len with
    | none => some fullPrefix6
    | some t => readPrefix? 128 t
  some ⟨bits, len, zone⟩

/-- Reads an address, IPv4 before IPv6. -/
def read? (cs : List Char) : Option Address :=
  match read4? cs with
  | some a => some (v4 a)
  | none => (read6? cs).map v6

def ofText? (text : String) : Option Address := read? text.toList

/-- Reads an address, or says which text is none. -/
def parse (text : String) : Except AgentError Address :=
  match ofText? text with
  | some a => .ok a
  | none =>
    .error { kind := .parse, reason := .addressText text, activity := some .parseAddress,
             entity := some "address" }

end MeshAgent.Address
