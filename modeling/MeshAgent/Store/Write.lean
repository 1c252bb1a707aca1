import MeshAgent.Store.History

/-!
# Writing interfaces

An interface is stored whole: its row is inserted or replaced, and its peers are replaced. Keys are
checked before anything is written.
-/
namespace MeshAgent

namespace Interface

/-- Checks the private key, the device's public key and the peers' public keys, in this order. -/
def checkKeys (i : Interface) (activity : Activity) : Except AgentError Unit := do
  Key.check i.key activity "key"
  Key.check i.device.publicKey activity "public_key"
  i.peers.forM fun p => Key.check p.publicKey activity ("peer " ++ p.id ++ " public_key")

/-- The stored form, with the secrets sealed. -/
def toColumns (i : Interface) (key deviceToken : Bytes) : InterfaceColumns :=
  { apiUrl := i.apiUrl
    netId := i.network.id, netName := i.network.name, netCidr := i.network.cidr.text
    deviceId := i.device.id, deviceName := i.device.name, deviceEndpoint := i.device.endpoint
    deviceAddr := i.device.addr.text, publicKey := Key.format i.device.publicKey
    listenPort := some i.listenPort, key, deviceToken }

end Interface

namespace Device

def toPeerColumns (d : Device) : PeerColumns :=
  { deviceId := d.id, deviceName := d.name, deviceEndpoint := d.endpoint
    deviceAddr := d.addr.text, publicKey := Key.format d.publicKey }

end Device

namespace StoreM

/-- Seals a secret under the store key with a fresh nonce. -/
def sealed (secret : Bytes) : StoreM Bytes := do
  let nonce ← draw SecretBox.nonceSize
  lift (orFail (Secret.encrypt secret (← get).store.key nonce))

end StoreM

/-- A store, and an interface in the hands of its caller. -/
structure Held extends StoreState where
  held : Interface

/-- An operation that may assign to the interface that its caller holds. -/
abbrev HeldM := ExceptT Failure (StateM Held)

namespace HeldM

/-- Works on the store alone. -/
def onStore {α : Type} (x : StoreM α) : HeldM α := do
  let s ← get
  let (outcome, t) := x.run s.toStoreState
  set { s with toStoreState := t }
  match outcome with
  | .ok a => return a
  | .error f => throw f

def assignId (id : Int) : HeldM Unit := modify fun s => { s with held := { s.held with id } }

/-- Hands an interface to an operation, and tells how it ended and what became of the interface. -/
def holding {α : Type} (i : Interface) (x : HeldM α) : StoreM (Except Failure α × Interface) := do
  let (outcome, s) := x.run { toStoreState := ← get, held := i }
  set s.toStoreState
  return (outcome, s.held)

end HeldM

namespace Store

open StoreM

/-- Stores an interface in a transaction that is under way and returns its id. An id that is not
positive stands for a new one. -/
def ensureInterfaceIn (h : Handle) (iface : Interface) : StoreM Int := do
  let label := iface.label
  let activity := Activity.upsertInterface label
  lift (orFail (iface.checkKeys activity))
  let now := (← get).now.tdiv 1000000
  let given := if 0 < iface.id then some iface.id else none
  let columns := iface.toColumns (← sealed iface.key) (← sealed iface.deviceToken)
  let id ← Transaction.execute h activity none (given.toList ++ [now, iface.listenPort]) fun t =>
    t.upsertInterface given now columns
  Transaction.execute h (.replacePeers label) none [] fun t => .ok (t.deletePeers id, ())
  iface.peers.forM fun p =>
    Transaction.execute h (.insertPeer p.id) (some p.id) [] fun t =>
      (t.insertPeer id p.toPeerColumns).map (·, ())
  if iface.id = id then
    record .info .store
      ("Updated interface " ++ label ++ " (id " ++ shown id ++ ", " ++ shown iface.peers.length
        ++ " peers)")
  else record .info .store ("Inserted interface " ++ label ++ " as id " ++ shown id)
  return id

/-- `ensureInterfaceIn` for the interface that the caller holds, which gets the id. -/
def ensureHeldIn (h : Handle) : HeldM Int := do
  let id ← HeldM.onStore (ensureInterfaceIn h (← get).held)
  HeldM.assignId id
  return id

/-- Stores the interface that the caller holds in a transaction of its own. After a failure it has
the id again that it had before. -/
def ensureHeld : HeldM Int := do
  let original := (← get).held.id
  let stored : HeldM Unit := Transaction.scope HeldM.onStore true fun h => do
    let _ ← ensureHeldIn h
    HeldM.onStore (Transaction.commit h)
  tryCatch stored fun e => do
    HeldM.assignId original
    throw e
  return (← get).held.id

/-- Stores an interface in a transaction of its own and returns its id. -/
def ensureInterface (iface : Interface) : StoreM Int := do
  let (outcome, _) ← HeldM.holding iface ensureHeld
  lift outcome

section

variable {m : Type → Type} [Monad m] [MonadExceptOf Failure m] {α : Type}

/-- Hands the newest entry of an interface to `body` and commits what it does if it returns. -/
def withLog (onStore : {β : Type} → StoreM β → m β) (iface : Interface)
    (body : Handle → Option Entry → m α) : m α :=
  Transaction.scope onStore true fun h => do
    let last ← onStore (History.last h iface)
    let a ← body h last
    onStore (Transaction.commit h)
    return a

end

/-- `withLog` for a body that only works on the store. -/
def logged {α : Type} (iface : Interface) (body : Handle → Option Entry → StoreM α) : StoreM α :=
  withLog (fun x => x) iface body

end Store

end MeshAgent
