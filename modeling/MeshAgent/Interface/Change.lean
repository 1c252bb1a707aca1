import MeshAgent.Interface

/-!
# Changes of single fields

A held interface can be changed field by field before it is stored. Nothing is checked then, except
that a text has to be an address where an address is held.
-/
namespace MeshAgent

namespace Device

/-- A new value for one field of a device. -/
inductive Change
  | id (value : String)
  | name (value : String)
  | endpoint (value : String)
  | addr (text : String)
  | publicKey (value : Bytes)
deriving Repr

def change (d : Device) : Change → Except Failure Device
  | .id value => .ok { d with id := value }
  | .name value => .ok { d with name := value }
  | .endpoint value => .ok { d with endpoint := value }
  | .addr text => do return { d with addr := ← orFail (Address.parse text) }
  | .publicKey value => .ok { d with publicKey := value }

end Device

namespace Interface

/-- A new value for one field of an interface. -/
inductive Change
  | id (value : Int)
  | apiUrl (value : String)
  | listenPort (value : Int)
  | key (value : Bytes)
  | deviceToken (value : Bytes)
  | networkId (value : String)
  | networkName (value : String)
  | networkCidr (text : String)
  | device (change : Device.Change)
  /-- Replaces all peers by devices whose fields have no types yet. -/
  | peers (fields : List Datum)
  | peer (position : Nat) (change : Device.Change)
deriving Repr

/-- Changes one field. A peer that is not there stays missing. -/
def change (i : Interface) : Change → Except Failure Interface
  | .id value => .ok { i with id := value }
  | .apiUrl value => .ok { i with apiUrl := value }
  | .listenPort value => .ok { i with listenPort := value }
  | .key value => .ok { i with key := value }
  | .deviceToken value => .ok { i with deviceToken := value }
  | .networkId value => .ok { i with network.id := value }
  | .networkName value => .ok { i with network.name := value }
  | .networkCidr text => do return { i with network.cidr := ← orFail (Address.parse text) }
  | .device c => do return { i with device := ← i.device.change c }
  | .peers fields => do
    return { i with peers := ← fields.mapM fun d => (Message.ofDatum .caller d).toExcept }
  | .peer position c =>
    match i.peers[position]? with
    | none => .ok i
    | some p => do return { i with peers := i.peers.set position (← p.change c) }

end Interface

end MeshAgent
