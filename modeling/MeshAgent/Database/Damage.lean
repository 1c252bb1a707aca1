import MeshAgent.Database.Tables
import MeshAgent.Failure

/-!
# Damage

Stored values can be changed behind the back of the store. Such changes keep the types of columns
and the uniqueness of identities, since the database itself sees to that, and nothing else.
-/
namespace MeshAgent

/-- What is done to a stored value. -/
inductive Damage
  | text (value : String)
  | bytes (value : Bytes)
  | integer (value : Option Int)
  /-- Changes the lowest bit of a byte; a negative position counts from the end. -/
  | flip (position : Int)
deriving DecidableEq, Repr

namespace Damage

def flipAt (position : Int) (bs : Bytes) : Bytes :=
  let i := if position < 0 then bs.length + position else position
  if 0 ≤ i then bs.modify i.toNat (· ^^^ 1) else bs

/-- A column of bytes after the damage. -/
def onBytes (d : Damage) (bs : Bytes) : Bytes :=
  match d with
  | bytes value => value
  | flip position => flipAt position bs
  | _ => bs

def onText (d : Damage) (s : String) : String :=
  match d with
  | text value => value
  | _ => s

def onInteger (d : Damage) (n : Option Int) : Option Int :=
  match d with
  | integer value => value
  | _ => n

def onInterface (d : Damage) (column : String) (r : InterfaceRow) : InterfaceRow :=
  match column with
  | "created_at" => { r with createdAt := d.onInteger r.createdAt }
  | "updated_at" => { r with updatedAt := d.onInteger r.updatedAt }
  | "api_url" => { r with apiUrl := d.onText r.apiUrl }
  | "net_id" => { r with netId := d.onText r.netId }
  | "net_name" => { r with netName := d.onText r.netName }
  | "net_cidr" => { r with netCidr := d.onText r.netCidr }
  | "device_id" => { r with deviceId := d.onText r.deviceId }
  | "device_name" => { r with deviceName := d.onText r.deviceName }
  | "device_endpoint" => { r with deviceEndpoint := d.onText r.deviceEndpoint }
  | "device_addr" => { r with deviceAddr := d.onText r.deviceAddr }
  | "public_key" => { r with publicKey := d.onText r.publicKey }
  | "listen_port" => { r with listenPort := d.onInteger r.listenPort }
  | "key" => { r with key := d.onBytes r.key }
  | "device_token" => { r with deviceToken := d.onBytes r.deviceToken }
  | _ => r

def onPeer (d : Damage) (column : String) (r : PeerRow) : PeerRow :=
  match column with
  | "iface_id" => { r with interfaceId := (d.onInteger (some r.interfaceId)).getD r.interfaceId }
  | "device_id" => { r with deviceId := d.onText r.deviceId }
  | "device_name" => { r with deviceName := d.onText r.deviceName }
  | "device_endpoint" => { r with deviceEndpoint := d.onText r.deviceEndpoint }
  | "device_addr" => { r with deviceAddr := d.onText r.deviceAddr }
  | "public_key" => { r with publicKey := d.onText r.publicKey }
  | _ => r

def onLog (d : Damage) (column : String) (r : LogRow) : LogRow :=
  match column with
  | "ts" => { r with seconds := d.onInteger r.seconds }
  | "iface_id" => { r with interfaceId := (d.onInteger (some r.interfaceId)).getD r.interfaceId }
  | "operation" => { r with operation := d.onText r.operation }
  | "state" => { r with state := d.onText r.state }
  | "dirty" => { r with dirty := (d.onInteger (some r.dirty)).getD r.dirty }
  | "message" => { r with message := d.onText r.message }
  | _ => r

end Damage

namespace Tables

/-- Adds an entry at the place of its id. -/
def insertEntry (entry : LogRow) : List LogRow → List LogRow
  | [] => [entry]
  | r :: rs => if entry.id < r.id then entry :: r :: rs else r :: insertEntry entry rs

/-- Gives an entry another id, which counts as used from then on. -/
def renumber (t : Tables) (id new : Int) : Except Failure (Tables × Nat) :=
  match t.log.find? fun r => r.id = id with
  | none => .ok (t, 0)
  | some r =>
    let others := t.log.filter fun s => s.id ≠ id
    if others.any fun s => s.id = new then .error (.duplicateValue "iface_log.id")
    else
      .ok ({ t with
        log := insertEntry { r with id := new } others
        lastLogId := max t.lastLogId new }, 1)

/-- Damages a column of the row with the given id, and says how many rows there were. -/
def damage (t : Tables) (table column : String) (id : Int) (d : Damage) :
    Except Failure (Tables × Nat) :=
  match table with
  | "iface" =>
    match t.interface? id with
    | none => .ok (t, 0)
    | some r =>
      let r := d.onInterface column r
      match t.conflict? (some id) r.toInterfaceColumns with
      | some i => .error (.duplicateValue i.columns)
      | none =>
        .ok ({ t with interfaces := t.interfaces.map fun s => if s.id = id then r else s }, 1)
  | "peer" =>
    .ok ({ t with peers := t.peers.map fun r => if r.rowId = id then d.onPeer column r else r },
      (t.peers.filter fun r => r.rowId = id).length)
  | "iface_log" =>
    match column, d with
    | "id", .integer (some new) => t.renumber id new
    | _, _ =>
      .ok ({ t with log := t.log.map fun r => if r.id = id then d.onLog column r else r },
        (t.log.filter fun r => r.id = id).length)
  | _ => .ok (t, 0)

end Tables

end MeshAgent
