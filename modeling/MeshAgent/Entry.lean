import MeshAgent.DateTime.Basic
import MeshAgent.Failure

/-!
# Log entries

One step of reconciliation: what was attempted, how it ended, and whether the tunnel has yet to
catch up with the stored interface.
-/
namespace MeshAgent

/-- Kind of a reconciliation step. -/
inductive Operation
  | join
  | refresh
  | apply
  | up
  | down
deriving DecidableEq, Repr

namespace Operation

def name : Operation → String
  | join => "join"
  | refresh => "refresh"
  | apply => "apply"
  | up => "up"
  | down => "down"

def all : List Operation := [join, refresh, apply, up, down]

def ofName? (s : String) : Option Operation := all.find? fun o => o.name = s

@[simp] theorem ofName?_name (o : Operation) : ofName? o.name = some o := by
  cases o <;> simp [ofName?, all, name]

end Operation

/-- Outcome of a reconciliation step. -/
inductive State
  | joined
  | refreshed
  | applied
  | up
  | down
  | failed
deriving DecidableEq, Repr

namespace State

def name : State → String
  | joined => "joined"
  | refreshed => "refreshed"
  | applied => "applied"
  | up => "up"
  | down => "down"
  | failed => "failed"

def title : State → String
  | joined => "JOINED"
  | refreshed => "REFRESHED"
  | applied => "APPLIED"
  | up => "UP"
  | down => "DOWN"
  | failed => "FAILED"

def all : List State := [joined, refreshed, applied, up, down, failed]

def ofName? (s : String) : Option State := all.find? fun x => x.name = s

@[simp] theorem ofName?_name (s : State) : ofName? s.name = some s := by
  cases s <;> simp [ofName?, all, name]

end State

/-- An entry of the log, as it was written. -/
structure Entry where
  id : Int
  /-- Whole seconds since the start of 1970. -/
  seconds : Int
  operation : Operation
  state : State
  dirty : Bool := false
  message : String := ""
deriving DecidableEq, Repr

/-- The time of an entry, in universal time. -/
def Entry.time (e : Entry) : DateTime := DateTime.ofUnix e.seconds 0

end MeshAgent
