import MeshAgent.Wire.Subscription
import MeshAgent.Key

/-!
# Networks and devices
-/
namespace MeshAgent

def Address.toDatum (a : Address) : Datum := .text a.text

/-- A mesh network and its address block. -/
structure Network where
  id : String
  name : String
  cidr : Address
deriving DecidableEq, Repr

instance : Message Network where
  ofFields _ fs :=
    Network.mk
      <$> Field.required "id" "id" Field.text fs
      <*> Field.required "name" "name" Field.text fs
      <*> Field.required "address" "cidr" Field.address fs
  toFields n := [("id", .text n.id), ("name", .text n.name), ("address", n.cidr.toDatum)]

/-- A device in a network, this one or a peer. Its name is unique there. -/
structure Device where
  id : String
  name : String
  /-- `host:port` where the device can be reached, or empty. -/
  endpoint : String := ""
  addr : Address
  publicKey : Bytes
deriving DecidableEq, Repr

namespace Device

def publicKeyText (d : Device) : String := Key.format d.publicKey

end Device

instance : Message Device where
  ofFields _ fs :=
    Device.mk
      <$> Field.required "id" "id" Field.text fs
      <*> Field.required "name" "name" Field.text fs
      <*> Field.optional "endpoint" "endpoint" "" Field.text fs
      <*> Field.required "addr" "addr" Field.address fs
      <*> Field.required "publicKey" "public_key" Field.base64 fs
  toFields d :=
    [("id", .text d.id), ("name", .text d.name), ("endpoint", .text d.endpoint),
     ("addr", d.addr.toDatum), ("publicKey", Bytes.toDatum d.publicKey)]

end MeshAgent
