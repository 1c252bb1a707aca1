import MeshAgent.Wire.Topology

/-!
# Joining a network
-/
namespace MeshAgent

/-- Request to join a device to a network, the subscription's default one if none is named. -/
structure JoinRequest where
  name : String
  network : Option String := none
  machineId : Bytes
  key : Bytes
  endpoint : Option String := none
  /-- Address and port to use when a new network is started. -/
  availableAddr : Option Address := none
  availablePort : Option Int := none
deriving DecidableEq, Repr

namespace JoinRequest

def machineIdSize : Nat := 32

/-- Checks lengths and port range before the request is sent. -/
def check (r : JoinRequest) : Except AgentError Unit := do
  if r.machineId.length ≠ machineIdSize then
    throw (.validation (.machineIdLength r.machineId.length) .validateJoin "machine_id")
  Key.check r.key .validateJoin "key"
  let port := r.availablePort.getD 0
  if port < 0 ∨ 65535 < port then throw (.validation (.port port) .validateJoin "available_port")

end JoinRequest

instance : Message JoinRequest where
  ofFields _ fs :=
    JoinRequest.mk
      <$> Field.required "name" "name" Field.text fs
      <*> Field.optional "network" "network" none (Field.nullable Field.text) fs
      <*> Field.required "machineId" "machine_id" Field.base64 fs
      <*> Field.required "key" "key" Field.base64 fs
      <*> Field.optional "endpoint" "endpoint" none (Field.nullable Field.text) fs
      <*> Field.optional "availableAddr" "available_addr" none (Field.nullable Field.address) fs
      <*> Field.optional "availablePort" "available_port" none (Field.nullable Field.int) fs
  toFields r :=
    [("name", .text r.name)] ++ Field.present "network" .text r.network
      ++ [("machineId", Bytes.toDatum r.machineId), ("key", Bytes.toDatum r.key)]
      ++ Field.present "endpoint" .text r.endpoint
      ++ Field.present "availableAddr" Address.toDatum r.availableAddr
      ++ Field.present "availablePort" .int r.availablePort

/-- The control plane's answer to a join or a refresh. -/
structure JoinResponse where
  network : Network
  /-- The assigned device, which stays as long as it is a member of the network. -/
  device : Device
  /-- All other devices of the network. -/
  peers : List Device := []
  plan : Plan := {}
  /-- Authenticates later requests of this device. -/
  token : Bytes := []
deriving DecidableEq, Repr

instance : Message JoinResponse where
  ofFields source fs :=
    JoinResponse.mk
      <$> Field.required "network" "network" (Message.ofDatum source) fs
      <*> Field.required "device" "device" (Message.ofDatum source) fs
      <*> Field.optional "peers" "peers" [] (Field.list (Message.ofDatum source)) fs
      <*> Field.optional "plan" "plan" {} (Message.ofDatum source) fs
      <*> Field.optional "token" "token" [] Field.base64 fs
  toFields r :=
    [("network", Message.toDatum r.network), ("device", Message.toDatum r.device),
     ("peers", .list (r.peers.map Message.toDatum)), ("plan", Message.toDatum r.plan),
     ("token", Bytes.toDatum r.token)]

end MeshAgent
