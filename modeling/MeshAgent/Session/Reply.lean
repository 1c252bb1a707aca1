import MeshAgent.CommandLine.Run
import MeshAgent.Session.Step

/-!
# Replies to the steps of a session
-/
namespace MeshAgent.Session

inductive Reply
  | done
  | answer (answer : Answer)
  /-- An interface with what people call it. -/
  | described (interface : Interface)
  | config (config : Config)
  /-- A file that was written, and its text. -/
  | written (path text : String)
  | text (text : String)
  | paths (paths : List String)
  | key (key : Bytes)
  /-- A key that nobody could know before; `stored` says whether its file holds it. -/
  | freshKey (length : Nat) (stored : Bool)
  | rows (count : Nat)
  | tables (tables : Tables)
  | printed (outcome : CommandLine.Outcome)
  /-- A failure. If an interface was to be stored, its id afterwards is told. -/
  | failed (failure : Failure) (id : Option Int)
  | withLog (last : Option Entry) (replies : List Reply) (outcome : Except Failure Datum)
  | transaction (replies : List Reply) (outcome : Except Failure Unit)

namespace Reply

def ofExcept {α : Type} (reply : α → Reply) : Except Failure α → Reply
  | .ok a => reply a
  | .error f => failed f none

/-- The failure that a step ended with. -/
def failure? : Reply → Option Failure
  | failed f _ => some f
  | withLog _ _ (.error f) => some f
  | transaction _ (.error f) => some f
  | _ => none

end Reply

end MeshAgent.Session
