import MeshAgent.Database.Tables

/-!
# Connections

A connection works on the durable tables, or, inside a transaction, on a working copy of them that
a commit makes durable and a rollback drops. There is at most one transaction at a time. A statement
that finds all ids used up ends it as a rollback does.
-/
namespace MeshAgent

structure Connection where
  /-- What every other connection sees. -/
  durable : Tables := {}
  /-- The working copy of the transaction that is under way. -/
  working : Option Tables := none
  closed : Bool := false
deriving DecidableEq, Repr

namespace Connection

/-- What this connection sees. -/
def tables (c : Connection) : Tables := c.working.getD c.durable

/-- Replaces what this connection sees. Outside a transaction that is durable at once. -/
def put (c : Connection) (t : Tables) : Connection :=
  match c.working with
  | some _ => { c with working := some t }
  | none => { c with durable := t }

def closedProblem : DatabaseProblem := .other "Cannot operate on a closed database."

def begin_ (c : Connection) : Except DatabaseProblem Connection :=
  if c.closed then .error closedProblem
  else if c.working.isSome then .error .nestedTransaction
  else .ok { c with working := some c.durable }

def commit (c : Connection) : Except DatabaseProblem Connection :=
  if c.closed then .error closedProblem
  else
    match c.working with
    | some t => .ok { c with durable := t, working := none }
    | none => .error .nothingToCommit

def rollback (c : Connection) : Except DatabaseProblem Connection :=
  if c.closed then .error closedProblem
  else if c.working.isSome then .ok { c with working := none }
  else .error .nothingToRollBack

/-- What a refused statement leaves. It has changed nothing, but for some refusals the database rolls
back the transaction that is under way. -/
def refused (c : Connection) (p : DatabaseProblem) : Connection :=
  if p.endsTransaction then { c with working := none } else c

/-- Runs one statement. -/
def run {α : Type} (c : Connection) (statement : Tables → Except DatabaseProblem (Tables × α)) :
    Except DatabaseProblem α × Connection :=
  if c.closed then (.error closedProblem, c)
  else
    match statement c.tables with
    | .ok (t, a) => (.ok a, c.put t)
    | .error p => (.error p, c.refused p)

/-- Takes over what another connection has made durable. A working copy that holds no changes yet
follows. -/
def follow (c : Connection) (t : Tables) : Connection :=
  { c with durable := t, working := c.working.map fun w => if w = c.durable then t else w }

/-- Closing drops a transaction that is under way. -/
def close (c : Connection) : Connection := { c with working := none, closed := true }

@[simp] theorem tables_put (c : Connection) (t : Tables) : (c.put t).tables = t := by
  cases h : c.working <;> simp [put, tables, h]

end Connection

end MeshAgent
