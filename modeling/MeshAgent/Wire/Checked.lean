import MeshAgent.Failure

/-!
# Checked records

The fields of a record are checked side by side: a record with several bad fields reports them all,
in the order in which they are declared.
-/
namespace MeshAgent

inductive Checked (α : Type)
  | ok (value : α)
  | bad (errors : List FieldError)
deriving Repr, DecidableEq

namespace Checked

variable {α β : Type}

/-- A value with something wrong with it. -/
def wrong (problem : FieldProblem) : Checked α := bad [⟨problem, []⟩]

def map (f : α → β) : Checked α → Checked β
  | ok a => ok (f a)
  | bad es => bad es

/-- Checks both sides, whatever the first one says. -/
def seq (f : Checked (α → β)) (x : Checked α) : Checked β :=
  match f, x with
  | ok f, ok a => ok (f a)
  | ok _, bad es => bad es
  | bad es, ok _ => bad es
  | bad es, bad es' => bad (es ++ es')

instance : Applicative Checked where
  pure := ok
  map := map
  seq f x := seq f (x ())

@[simp] theorem map_ok (f : α → β) (a : α) : f <$> (ok a : Checked α) = ok (f a) := rfl

@[simp] theorem ok_seq_ok (f : α → β) (a : α) : (ok f <*> ok a : Checked β) = ok (f a) := rfl

/-- A checked part of a checked whole. -/
def bind (x : Checked α) (f : α → Checked β) : Checked β :=
  match x with
  | ok a => f a
  | bad es => bad es

/-- Places errors inside a record or list. -/
def under (step : PathStep) : Checked α → Checked α
  | ok a => ok a
  | bad es => bad (es.map fun e => { e with path := step :: e.path })

@[simp] theorem under_ok (step : PathStep) (a : α) : under step (ok a) = ok a := rfl

def ofExcept : Except FieldProblem α → Checked α
  | .ok a => ok a
  | .error p => wrong p

def toExcept : Checked α → Except Failure α
  | ok a => .ok a
  | bad es => .error (.record es)

end Checked

end MeshAgent
