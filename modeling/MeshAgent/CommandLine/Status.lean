import MeshAgent.Entry
import MeshAgent.Number.Binary64

/-!
# Words for the state of an interface

The state of an interface in a word or two, with markup for its style, and the age of an entry in
its largest full unit.
-/
namespace MeshAgent.Status

/-- Text in a style. -/
def styled (style body : String) : String := "[" ++ style ++ "]" ++ body ++ "[/]"

/-- The last entry as a status. A failed step names what failed. -/
def markup : Option Entry → String
  | none => styled "dim" "NEW"
  | some e =>
    if e.state = .failed then styled "bold red" (e.operation.name ++ " FAILED")
    else if e.dirty then styled "bold yellow" (e.state.title ++ " (dirty)")
    else styled "bold green" e.state.title

/-- Whole seconds of a time span in microseconds, towards zero. The span is taken as a binary number
of seconds first. -/
def wholeSeconds (micros : Int) : Int :=
  match Binary64.ofFraction false micros.natAbs 1000000 with
  | .finite m e => if micros < 0 then -Binary64.floorOf m e else Binary64.floorOf m e
  | _ => 0

/-- The time since `then_`, both in microseconds. Times to come are no time ago. -/
def age (now then_ : Int) : String :=
  let seconds := wholeSeconds (now - then_)
  if seconds < 60 then shown (max seconds 0) ++ "s ago"
  else if seconds < 3600 then shown (seconds / 60) ++ "m ago"
  else if seconds < 86400 then shown (seconds / 3600) ++ "h ago"
  else shown (seconds / 86400) ++ "d ago"

end MeshAgent.Status
