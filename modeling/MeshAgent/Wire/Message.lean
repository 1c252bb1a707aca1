import MeshAgent.Json.Reader
import MeshAgent.Json.Writer
import MeshAgent.Wire.Field

/-!
# Messages

A message is a record that travels as JSON. Its type says how its fields are read and written.
-/
namespace MeshAgent

class Message (α : Type) where
  /-- Reads the fields of a record. -/
  ofFields : Field.Source → Field.Fields → Checked α
  /-- The fields that are sent. -/
  toFields : α → Field.Fields

namespace Message

variable {α : Type} [Message α]

def ofDatum (source : Field.Source) : Datum → Checked α := Field.record (ofFields source)

def toDatum (m : α) : Datum := .record (toFields m)

/-- A message out of a text that has been read already, if it was JSON at all. -/
def ofRead? : Option Datum → Except Failure α
  | some d => (ofDatum .wire d).toExcept
  | none => .error (.record [⟨.jsonInvalid, []⟩])

/-- The text that is sent. -/
def toJson (m : α) : String := Json.render (toDatum m)

end Message

/-- Field with a value that may be missing: nothing is sent then. -/
def Field.present {α : Type} (name : String) (write : α → Datum) : Option α → Field.Fields
  | some a => [(name, write a)]
  | none => []

end MeshAgent
