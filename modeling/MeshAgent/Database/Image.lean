import MeshAgent.Database.Tables

/-!
# Database files

A database file is a row of pages of one size. The rows of a table are the leaves of a tree of pages;
a row that is too long for its page goes on in a chain of other pages. Page 1 starts with a header,
and its tree holds the names of all tables and the roots of their trees.
-/
namespace MeshAgent

/-- A value in a row. -/
inductive Cell
  | null
  | integer (value : Int)
  | text (value : String)
  | blob (value : Bytes)
  /-- A value that no column here holds. -/
  | foreign
deriving DecidableEq, Repr

namespace Image

/-- A byte, or zero behind the end. -/
def byte (d : Array UInt8) (i : Nat) : Nat := (d[i]?.map UInt8.toNat).getD 0

/-- A number of `width` bytes, highest first. -/
def word (d : Array UInt8) (width i : Nat) : Nat :=
  (List.range width).foldl (fun n k => 256 * n + byte d (i + k)) 0

/-- The number whose last `width` bytes are those of `n`. -/
def signed (width n : Nat) : Int :=
  if 2 * n < Nat.pow 256 width then n else (n : Int) - Nat.pow 256 width

/-- Reads seven bits of each byte as long as the highest bit says that more follow; the last of nine
bytes is read whole. -/
def varintFrom (d : Array UInt8) : Nat → Nat → Nat → Nat × Nat
  | 0, n, i => (256 * n + byte d i, i + 1)
  | more + 1, n, i =>
    let b := byte d i
    if b < 128 then (128 * n + b, i + 1) else varintFrom d more (128 * n + (b - 128)) (i + 1)

/-- A number of one to nine bytes, and the position after it. -/
def varint (d : Array UInt8) (i : Nat) : Nat × Nat := varintFrom d 8 0 i

def slice (d : Array UInt8) (i n : Nat) : Bytes := (d.extract i (i + n)).toList

/-! Rows -/

/-- The codes of the values of a row, up to the end of its header. -/
def codes (d : Array UInt8) (stop : Nat) : Nat → Nat → List Nat
  | 0, _ => []
  | fuel + 1, i =>
    if i < stop then
      let (code, i) := varint d i
      code :: codes d stop fuel i
    else []

/-- Bytes that a value with the given code takes. -/
def sizeOf (code : Nat) : Nat :=
  if code < 5 then code
  else if code = 5 then 6
  else if code = 6 ∨ code = 7 then 8
  else (code - 12) / 2

/-- The value with the given code at a position. -/
def cell (d : Array UInt8) (code i : Nat) : Cell :=
  if code = 0 then .null
  else if code < 7 then .integer (signed (sizeOf code) (word d (sizeOf code) i))
  else if code = 8 then .integer 0
  else if code = 9 then .integer 1
  else if code < 12 then .foreign
  else
    let bytes := slice d i (sizeOf code)
    if code % 2 = 0 then .blob bytes
    else
      match Bytes.toText? bytes with
      | some s => .text s
      | none => .foreign

def cellsFrom (d : Array UInt8) : Nat → List Nat → List Cell
  | _, [] => []
  | i, code :: rest => cell d code i :: cellsFrom d (i + sizeOf code) rest

/-- The values of a row. -/
def cells (row : Bytes) : List Cell :=
  let d := row.toArray
  let (stop, i) := varint d 0
  cellsFrom d stop (codes d stop stop i)

/-! Pages -/

/-- A file with the size of its pages and the part of each page that is used. -/
structure Pages where
  bytes : Array UInt8
  size : Nat
  used : Nat

namespace Pages

/-- Number of pages; no chain is longer. -/
def count (p : Pages) : Nat := p.bytes.size / p.size

def start (p : Pages) (page : Nat) : Nat := (page - 1) * p.size

/-- `n` bytes from a chain of pages. -/
def chain (p : Pages) : Nat → Nat → Nat → Bytes
  | 0, _, _ => []
  | fuel + 1, page, n =>
    if page = 0 ∨ n = 0 then []
    else
      let i := p.start page
      let here := min n (p.used - 4)
      slice p.bytes (i + 4) here ++ chain p fuel (word p.bytes 4 i) (n - here)

/-- A row of `n` bytes that starts at a position. -/
def row (p : Pages) (i n : Nat) : Bytes :=
  let most := p.used - 35
  if n ≤ most then slice p.bytes i n
  else
    let least := (p.used - 12) * 32 / 255 - 23
    let wanted := least + (n - least) % (p.used - 4)
    let here := if wanted ≤ most then wanted else least
    slice p.bytes i here ++ p.chain p.count (word p.bytes 4 (i + here)) (n - here)

/-- Number and values of a row in a leaf. -/
def leaf (p : Pages) (i : Nat) : Int × List Cell :=
  let (n, i) := varint p.bytes i
  let (id, i) := varint p.bytes i
  (signed 8 id, cells (p.row i n))

/-- Pages on the longest way from the root of a tree to a leaf. -/
def depthLimit : Nat := 20

/-- The rows below a page, at most `fuel` pages deep. -/
def rows (p : Pages) : Nat → Nat → List (Int × List Cell)
  | 0, _ => []
  | fuel + 1, page =>
    let start := p.start page
    let header := if page = 1 then 100 else start
    let isLeaf := byte p.bytes header = 13
    let first := header + if isLeaf then 8 else 12
    let places := (List.range (word p.bytes 2 (header + 3))).map fun k =>
      start + word p.bytes 2 (first + 2 * k)
    if isLeaf then places.map p.leaf
    else if byte p.bytes header = 5 then
      (places.map (word p.bytes 4 ·) ++ [word p.bytes 4 (header + 8)]).flatMap (p.rows fuel)
    else []

end Pages

/-- The first bytes of every database file. -/
def magic : Bytes := Bytes.ofText "SQLite format 3\x00"

/-- Pages of a database file whose texts are UTF-8. -/
def pages? (file : Bytes) : Option Pages :=
  let d := file.toArray
  let size := if word d 2 16 = 1 then 65536 else word d 2 16
  if magic.isPrefixOf file ∧ 512 ≤ size ∧ word d 4 56 ≤ 1 then
    some { bytes := d, size, used := size - byte d 20 }
  else none

/-- The rows of a table; a table that is missing has none. -/
def table (p : Pages) (name : String) : List (Int × List Cell) :=
  let root := (p.rows Pages.depthLimit 1).findSome? fun (_, r) =>
    match r with
    | [.text "table", .text n, _, .integer root, _] => if n = name then some root.toNat else none
    | _ => none
  match root with
  | some page => p.rows Pages.depthLimit page
  | none => []

end Image

namespace Cell

/-- A column that holds a number or nothing. -/
def integer? : Cell → Option (Option Int)
  | null => some none
  | integer n => some (some n)
  | _ => none

end Cell

namespace Tables

def interfaceRow? : Int × List Cell → Option InterfaceRow
  | (id, [_, created, updated, .text apiUrl, .text netId, .text netName, .text netCidr,
      .text deviceId, .text deviceName, .text deviceEndpoint, .text deviceAddr, .text publicKey,
      port, .blob key, .blob deviceToken]) => do
    return {
      id, createdAt := ← created.integer?, updatedAt := ← updated.integer?, apiUrl, netId, netName
      netCidr, deviceId, deviceName, deviceEndpoint, deviceAddr, publicKey
      listenPort := ← port.integer?, key, deviceToken }
  | _ => none

def peerRow? : Int × List Cell → Option PeerRow
  | (rowId, [.integer interfaceId, .text deviceId, .text deviceName, .text deviceEndpoint,
      .text deviceAddr, .text publicKey]) =>
    some { rowId, interfaceId, deviceId, deviceName, deviceEndpoint, deviceAddr, publicKey }
  | _ => none

def logRow? : Int × List Cell → Option LogRow
  | (id, [_, seconds, .integer interfaceId, .text operation, .text state, .integer dirty,
      .text message]) => do
    return { id, seconds := ← seconds.integer?, interfaceId, operation, state, dirty, message }
  | _ => none

/-- The largest id given so far in a table. -/
def lastId (sequence : List (Int × List Cell)) (name : String) : Int :=
  (sequence.findSome? fun (_, r) =>
    match r with
    | [.text n, .integer last] => if n = name then some last else none
    | _ => none).getD 0

/-- The tables in a database file, if it is one and all rows have values of the right types. -/
def ofFile? (file : Bytes) : Option Tables := do
  let p ← Image.pages? file
  let sequence := Image.table p "sqlite_sequence"
  return {
    interfaces := ← (Image.table p "iface").mapM interfaceRow?
    peers := ← (Image.table p "peer").mapM peerRow?
    log := ← (Image.table p "iface_log").mapM logRow?
    lastInterfaceId := lastId sequence "iface"
    lastLogId := lastId sequence "iface_log" }

end Tables

end MeshAgent
