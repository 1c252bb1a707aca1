import MeshAgent.Config
import MeshAgent.Store.Read
import MeshAgent.Wire.Join

/-!
# The agent

What the control plane answers is stored together with the entry that describes it. Steps done on
the tunnel itself only leave entries.
-/
namespace MeshAgent

namespace JoinResponse

/-- Refuses keys that are no keys, the device's before the peers'. -/
def checkKeys (r : JoinResponse) (activity : Activity) : Except AgentError Unit := do
  Key.check r.device.publicKey activity "device public_key"
  r.peers.forM fun p => Key.check p.publicKey activity ("peer " ++ p.id ++ " public_key")

end JoinResponse

namespace Agent

open StoreM

/-- A message, or the default one if it is empty. -/
def messageOr (message default : String) : String := if message = "" then default else message

/-- The interface that a join describes. -/
def joined (config : Config) (apiUrl : Option String) (privateKey : Bytes)
    (listenPort : Option Int) (r : JoinResponse) : Interface :=
  { apiUrl := apiUrl.getD config.apiUrl, network := r.network, device := r.device
    listenPort := listenPort.getD config.listenPort, key := privateKey, deviceToken := r.token
    peers := r.peers }

/-- Stores a newly joined interface. URL and port are the configured ones if they are not given. -/
def recordJoin (config : Config) (apiUrl : Option String) (privateKey : Bytes)
    (listenPort : Option Int) (r : JoinResponse) (message : String) : StoreM Interface := do
  lift (orFail (r.checkKeys .recordJoin))
  let iface := joined config apiUrl privateKey listenPort r
  let stored ← Store.logged iface fun h _ => do
    let stored := { iface with id := ← Store.ensureInterfaceIn h iface }
    let message := messageOr message ("joined network " ++ Text.quote iface.network.name)
    let _ ← History.append h stored .join .joined true message
    return stored
  record .info .agent
    ("Joined " ++ stored.label ++ " with " ++ shown stored.peers.length ++ " peers")
  return stored

/-- The interface that a refresh describes. An empty token keeps the one that is held. -/
def refreshed (iface : Interface) (r : JoinResponse) : Interface :=
  { iface with
    network := r.network, device := r.device, peers := r.peers
    deviceToken := if r.token = [] then iface.deviceToken else r.token }

/-- Replaces network, device and peers of an interface. -/
def recordRefresh (iface : Interface) (r : JoinResponse) (message : String) :
    StoreM Interface := do
  lift (orFail (r.checkKeys .recordRefresh))
  let updated := refreshed iface r
  Store.logged updated fun h _ => do
    let stored := { updated with id := ← Store.ensureInterfaceIn h updated }
    let message := messageOr message ("refreshed " ++ shown stored.peers.length ++ " peers")
    let _ ← History.append h stored .refresh .refreshed true message
    return stored

/-- The tunnel now matches the stored interface. -/
def recordApplied (iface : Interface) (message : String) : StoreM Entry :=
  Store.logged iface fun h _ => History.append h iface .apply .applied false message

/-- A step, given by its name, has failed; the tunnel still has to catch up. -/
def recordFailed (iface : Interface) (operation message : String) : StoreM Entry :=
  Store.logged iface fun h _ =>
    History.appendNamed h iface operation State.failed.name true message

/-- Whether the tunnel has to catch up: there is no entry yet, or the newest one is dirty. -/
def needsApply (iface : Interface) : StoreM Bool :=
  Store.logged iface fun _ last => return last.all (·.dirty)

end Agent

end MeshAgent
