import MeshAgent.Wire.Topology

/-!
# Interfaces

An interface is this device's membership in one network: its keys, its listen port and the other
devices as they were last reported. Its id is 0 until it is stored.
-/
namespace MeshAgent

structure Interface where
  id : Int := 0
  apiUrl : String
  network : Network
  device : Device
  listenPort : Int := 0
  /-- The private key, held in the clear only here. -/
  key : Bytes
  deviceToken : Bytes
  peers : List Device := []
deriving DecidableEq, Repr

namespace Interface

/-- What people call an interface. -/
def labelOf (device network : String) : String := device ++ "@" ++ network

def label (i : Interface) : String := labelOf i.device.name i.network.name

def ofFields (fs : Field.Fields) : Checked Interface :=
  Interface.mk
    <$> Field.optional "id" "id" 0 Field.int fs
    <*> Field.required "api_url" "api_url" Field.text fs
    <*> Field.required "network" "network" (Message.ofDatum .caller) fs
    <*> Field.required "device" "device" (Message.ofDatum .caller) fs
    <*> Field.optional "listen_port" "listen_port" 0 Field.int fs
    <*> Field.required "key" "key" Field.bytes fs
    <*> Field.required "device_token" "device_token" Field.bytes fs
    <*> Field.optional "peers" "peers" [] (Field.list (Message.ofDatum .caller)) fs

/-- Builds an interface of values that have no types yet. -/
def ofDatum (d : Datum) : Except Failure Interface := (Field.record ofFields d).toExcept

end Interface

end MeshAgent
