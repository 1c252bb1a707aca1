import MeshAgent.Failure

/-!
# Texts that are not read

Most of what is wrong with a text is a matter of YAML, and the text is refused then. A few values break
the reading off with a failure of another kind. Collections are filled only once all that stands around
them has been read, so what is wrong at the least depth is met first.
-/
namespace MeshAgent.Yaml

/-- Why a text is not read. -/
inductive Problem
  | refused
  | broken (failure : Failure)
deriving DecidableEq, Repr

/-- What is not there is refused. -/
def orRefused {α : Type} : Option α → Except Problem α
  | some a => .ok a
  | none => .error .refused

@[simp] theorem orRefused_some {α : Type} (a : α) : orRefused (some a) = .ok a := rfl

/-- A value, or what is wrong with its parts, by depth. -/
inductive Built (α : Type)
  | done (value : α)
  | wrong (levels : List (List Problem))
deriving Repr

namespace Built

variable {α β : Type}

def refused : Built α := wrong [[.refused]]

/-- Problems of two values that stand side by side. -/
def beside : List (List Problem) → List (List Problem) → List (List Problem)
  | [], ms => ms
  | ls, [] => ls
  | l :: ls, m :: ms => (l ++ m) :: beside ls ms

def map (f : α → β) : Built α → Built β
  | done a => done (f a)
  | wrong ls => wrong ls

/-- Builds both sides, whatever is wrong with the first one. -/
def seq (f : Built (α → β)) (x : Built α) : Built β :=
  match f, x with
  | done f, done a => done (f a)
  | done _, wrong ls => wrong ls
  | wrong ls, done _ => wrong ls
  | wrong ls, wrong ms => wrong (beside ls ms)

instance : Applicative Built where
  pure := done
  map := map
  seq f x := seq f (x ())

@[simp] theorem map_done (f : α → β) (a : α) : f <$> (done a : Built α) = done (f a) := rfl

@[simp] theorem done_seq_done (f : α → β) (a : α) :
    (done f <*> done a : Built β) = done (f a) := rfl

/-- A value that is filled one level below. -/
def deeper : Built α → Built α
  | done a => done a
  | wrong ls => wrong ([] :: ls)

@[simp] theorem deeper_done (a : α) : deeper (done a) = done a := rfl

def ofExcept : Except Problem α → Built α
  | .ok a => done a
  | .error p => wrong [[p]]

/-- All members of a list. -/
def all : List (Built α) → Built (List α)
  | [] => done []
  | x :: xs => List.cons <$> x <*> all xs

/-- The problem that is met first. -/
def toExcept : Built α → Except Problem α
  | done a => .ok a
  | wrong ls => .error (ls.flatten.head?.getD .refused)

end Built

end MeshAgent.Yaml
