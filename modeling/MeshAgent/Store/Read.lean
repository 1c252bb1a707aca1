import MeshAgent.Store.Write

/-!
# Reading interfaces

A read returns an interface with every field parsed and both secrets opened, or it fails at the
first field that is damaged.
-/
namespace MeshAgent

namespace Stored

/-- Parses a stored text, or says which field is damaged. -/
def parse {α : Type} (read : String → Except AgentError α) (text : String) (activity : Activity)
    (field : String) : Except AgentError α :=
  match read text with
  | .ok a => .ok a
  | .error e =>
    let outer : AgentError :=
      { kind := .parse, reason := .storedText field text, activity := some activity
        entity := some field }
    .error (outer.raisedFrom e)

/-- Opens a stored secret, or says which field is damaged. -/
def opened (key blob : Bytes) (activity : Activity) (field : String) : Except AgentError Bytes :=
  match Secret.decrypt blob key with
  | .ok s => .ok s
  | .error e =>
    let outer : AgentError :=
      { kind := .crypto, reason := .storedSecret field e.reason, activity := some activity
        entity := some field }
    .error (outer.raisedFrom e)

def peer (activity : Activity) (p : PeerColumns) : Except AgentError Device := do
  let addr ← parse Address.parse p.deviceAddr activity "peer address"
  let publicKey ← parse Key.parse p.publicKey activity "peer public key"
  return { id := p.deviceId, name := p.deviceName, endpoint := p.deviceEndpoint, addr, publicKey }

/-- The interface that a row and the rows of its peers hold. -/
def interface (key : Bytes) (r : InterfaceRow) (peers : List PeerRow) :
    Except AgentError Interface := do
  let activity := Activity.queryInterface r.id
  let cidr ← parse Address.parse r.netCidr activity "network CIDR"
  let addr ← parse Address.parse r.deviceAddr activity "device address"
  let publicKey ← parse Key.parse r.publicKey activity "public key"
  let privateKey ← opened key r.key activity "key"
  let deviceToken ← opened key r.deviceToken activity "device token"
  let peers ← peers.mapM fun p => peer activity p.toPeerColumns
  return {
    id := r.id
    apiUrl := r.apiUrl
    network := { id := r.netId, name := r.netName, cidr }
    device :=
      { id := r.deviceId, name := r.deviceName, endpoint := r.deviceEndpoint, addr, publicKey }
    listenPort := r.listenPort.getD 0
    key := privateKey
    deviceToken
    peers }

end Stored

namespace Store

open StoreM

/-- An interface with its newest entry. -/
structure Listed where
  interface : Interface
  entry : Option Entry
deriving DecidableEq, Repr

def interfaceIn (h : Handle) (id : Int) : StoreM Interface := do
  let activity := Activity.queryInterface id
  let found ← Transaction.query h activity none [id] fun t =>
    (t.interface? id).map fun r => (r, t.peersOf id)
  match found with
  | none => fail { kind := .notFound, reason := .noInterface id, activity := some activity }
  | some (row, peers) =>
    let iface ← lift (orFail (Stored.interface (← get).store.key row peers))
    record .debug .store
      ("Loaded interface " ++ shown id ++ " (" ++ shown peers.length ++ " peers)")
    return iface

/-- Runs a read in a transaction of its own, which leaves nothing behind. -/
def reading {α : Type} (body : Handle → StoreM α) : StoreM α :=
  Transaction.scope (fun x => x) false body

/-- The interface with the given id. -/
def interface (id : Int) : StoreM Interface := reading fun h => interfaceIn h id

/-- The interface of a device on a network. -/
def interfaceByDevice (device network : String) : StoreM Interface := reading fun h => do
  let entity := Interface.labelOf device network
  let found ← Transaction.query h .queryDevice (some entity) [] fun t =>
    (t.interfaceNamed? device network).map (·.id)
  match found with
  | none =>
    fail { kind := .notFound, reason := .noInterfaceFor device network
           activity := some .queryDevice, entity := some entity }
  | some id => interfaceIn h id

/-- All interfaces, in order of their ids, with their newest entries. -/
def interfaces : StoreM (List Listed) := reading fun h => do
  let ids ← Transaction.query h .queryInterfaces none [] fun t => t.interfaces.map (·.id)
  ids.mapM fun id => do
    let iface ← interfaceIn h id
    return { interface := iface, entry := ← History.last h iface }

/-- The newest entry of a device's interface. -/
def lastLogByDevice (device network : String) : StoreM Entry := do
  match ← reading fun h => History.lastNamed h device network with
  | some e => return e
  | none =>
    fail { kind := .notFound, reason := .noLogFor device network
           activity := some .queryDeviceLog
           entity := some (Interface.labelOf device network) }

end Store

end MeshAgent
