import MeshAgent.Bytes
import MeshAgent.Database.Problem

/-!
# Tables

Three tables hold the interfaces, their peers and the log. Interfaces are kept in order of their
ids, peers and log entries in the order in which they were added. Ids of interfaces and log entries
are never given twice; the largest one given so far is remembered.
-/
namespace MeshAgent

/-- Columns of an interface that a write replaces. Addresses and keys are text, secrets are sealed. -/
structure InterfaceColumns where
  apiUrl : String
  netId : String
  netName : String
  netCidr : String
  deviceId : String
  deviceName : String
  deviceEndpoint : String
  deviceAddr : String
  publicKey : String
  listenPort : Option Int
  key : Bytes
  deviceToken : Bytes
deriving DecidableEq, Repr

structure InterfaceRow extends InterfaceColumns where
  id : Int
  /-- Seconds since the start of 1970. -/
  createdAt : Option Int
  updatedAt : Option Int
deriving DecidableEq, Repr

structure PeerColumns where
  deviceId : String
  deviceName : String
  deviceEndpoint : String
  deviceAddr : String
  publicKey : String
deriving DecidableEq, Repr

structure PeerRow extends PeerColumns where
  rowId : Int
  interfaceId : Int
deriving DecidableEq, Repr

structure LogColumns where
  seconds : Option Int
  interfaceId : Int
  operation : String
  state : String
  /-- Zero is false. -/
  dirty : Int
  message : String
deriving DecidableEq, Repr

structure LogRow extends LogColumns where
  id : Int
deriving DecidableEq, Repr

structure Tables where
  interfaces : List InterfaceRow := []
  peers : List PeerRow := []
  log : List LogRow := []
  lastInterfaceId : Int := 0
  lastLogId : Int := 0
deriving DecidableEq, Repr

/-- Largest number that a column holds, and so the largest id. -/
def maxInteger : Int := 9223372036854775807

/-- Whether a column can hold a number, which takes 64 bits with its sign. -/
def fitsColumn (n : Int) : Bool := -maxInteger ≤ n + 1 && n ≤ maxInteger

namespace Identity

/-- Whether two interfaces have an identity in common. -/
def shared (i : Identity) (a b : InterfaceColumns) : Bool :=
  match i with
  | publicKey => a.publicKey = b.publicKey
  | networkAndDeviceName => a.netName = b.netName && a.deviceName = b.deviceName
  | deviceId => a.deviceId = b.deviceId

end Identity

namespace Tables

def interface? (t : Tables) (id : Int) : Option InterfaceRow := t.interfaces.find? fun r => r.id = id

def hasInterface (t : Tables) (id : Int) : Bool := t.interfaces.any fun r => r.id = id

/-- The interface of a device name on a network name; there is at most one. -/
def interfaceNamed? (t : Tables) (device network : String) : Option InterfaceRow :=
  t.interfaces.find? fun r => r.deviceName = device && r.netName = network

/-- The first identity that a row other than `self` has in common with the columns. -/
def conflict? (t : Tables) (self : Option Int) (c : InterfaceColumns) : Option Identity :=
  Identity.all.find? fun i =>
    t.interfaces.any fun r => some r.id ≠ self && i.shared r.toInterfaceColumns c

/-- Adds a row at the place of its id. -/
def insertRow (row : InterfaceRow) : List InterfaceRow → List InterfaceRow
  | [] => [row]
  | r :: rs => if row.id < r.id then row :: r :: rs else r :: insertRow row rs

/-- The id for a write: the given one, or the next one that was never used. -/
def idFor (t : Tables) (given : Option Int) : Except DatabaseProblem Int :=
  match given with
  | some id => .ok id
  | none => if t.lastInterfaceId = maxInteger then .error .idsExhausted else .ok (t.lastInterfaceId + 1)

/-- Stores an interface under the given or a new id. A row that was there keeps its creation time. -/
def upsertInterface (t : Tables) (given : Option Int) (now : Int) (c : InterfaceColumns) :
    Except DatabaseProblem (Tables × Int) := do
  let id ← t.idFor given
  match t.conflict? (some id) c with
  | some i => .error (.notUnique (some i.name))
  | none =>
    let interfaces :=
      if t.hasInterface id then
        t.interfaces.map fun r =>
          if r.id = id then { r with toInterfaceColumns := c, updatedAt := some now } else r
      else
        insertRow { c with id, createdAt := some now, updatedAt := some now } t.interfaces
    .ok ({ t with interfaces, lastInterfaceId := max t.lastInterfaceId id }, id)

def deletePeers (t : Tables) (interfaceId : Int) : Tables :=
  { t with peers := t.peers.filter fun p => p.interfaceId ≠ interfaceId }

/-- Peers are numbered one after the other, above all that are there. -/
def nextPeerId (t : Tables) : Int := (t.peers.map (·.rowId)).foldl max 0 + 1

def insertPeer (t : Tables) (interfaceId : Int) (c : PeerColumns) : Except DatabaseProblem Tables :=
  if t.hasInterface interfaceId then
    .ok { t with peers := t.peers ++ [{ c with rowId := t.nextPeerId, interfaceId }] }
  else .error .noReference

/-- Peers of an interface, in the order in which they were added. -/
def peersOf (t : Tables) (interfaceId : Int) : List PeerRow :=
  t.peers.filter fun p => p.interfaceId = interfaceId

def appendLog (t : Tables) (c : LogColumns) : Except DatabaseProblem (Tables × Int) :=
  if t.lastLogId = maxInteger then .error .idsExhausted
  else if t.hasInterface c.interfaceId then
    let id := t.lastLogId + 1
    .ok ({ t with log := t.log ++ [{ c with id }], lastLogId := id }, id)
  else .error .noReference

/-- The newest entry of an interface. -/
def lastLog? (t : Tables) (interfaceId : Int) : Option LogRow :=
  (t.log.filter fun r => r.interfaceId = interfaceId).getLast?

/-- The newest entry of any interface with the given names now. -/
def lastLogNamed? (t : Tables) (device network : String) : Option LogRow :=
  (t.log.filter fun r => t.interfaces.any fun i =>
    i.id = r.interfaceId && i.deviceName = device && i.netName = network).getLast?

end Tables

end MeshAgent
