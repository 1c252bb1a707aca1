import MeshAgent.Database.Connection
import MeshAgent.Entropy
import MeshAgent.Entry
import MeshAgent.Interface
import MeshAgent.Secret

/-!
# The store and what its operations work on

A store is a database path and the key that seals secrets. Its operations are functions from the
state of its connection, its transactions, the clock, the random source and the records made so far
to a new such state and an answer or a failure.
-/
namespace MeshAgent

inductive LogLevel
  | debug
  | info
  | warning
deriving DecidableEq, Repr

def LogLevel.name : LogLevel → String
  | debug => "DEBUG"
  | info => "INFO"
  | warning => "WARNING"

/-- What a diagnostic record is about. -/
inductive LogSource
  | database
  | store
  | history
  | agent
  | configuration
deriving DecidableEq, Repr

def LogSource.name : LogSource → String
  | database => "meshgarden.db"
  | store => "meshgarden.store"
  | history => "meshgarden.ifacelog"
  | agent => "meshgarden.agent"
  | configuration => "meshgarden.config"

/-- A diagnostic record. -/
structure LogRecord where
  level : LogLevel
  source : LogSource
  text : String
deriving DecidableEq, Repr

/-- Names a transaction of a store. -/
abbrev Handle := Nat

structure Store where
  /-- Path of the database. -/
  path : String
  /-- Seals secrets; 32 bytes. -/
  key : Bytes
deriving DecidableEq, Repr

/-- A store with its connection. -/
structure OpenStore where
  store : Store
  connection : Connection := {}
  /-- Number of transactions begun so far. -/
  begun : Nat := 0
  /-- Transactions that have been committed or rolled back. -/
  finished : List Handle := []

/-- What all parts of an agent share. -/
structure Surroundings where
  /-- Microseconds since the start of 1970. -/
  now : Int := 0
  entropy : Entropy
  /-- Diagnostic records, oldest first. -/
  records : List LogRecord := []

def Surroundings.record (s : Surroundings) (level : LogLevel) (source : LogSource) (text : String) :
    Surroundings :=
  { s with records := s.records ++ [⟨level, source, text⟩] }

structure StoreState extends OpenStore, Surroundings

/-- An operation of a store. A failure keeps the state that it was reached in. -/
abbrev StoreM := ExceptT Failure (StateM StoreState)

namespace StoreM

def fail {α : Type} (e : AgentError) : StoreM α := throw (.agent e)

/-- Takes over a pure result. -/
def lift {α : Type} : Except Failure α → StoreM α
  | .ok a => pure a
  | .error f => throw f

/-- What a failing operation has done stays done, and its failure is an outcome like others. -/
def attempt {α : Type} (x : StoreM α) : StoreM (Except Failure α) :=
  tryCatch (Except.ok <$> x) fun e => pure (.error e)

def record (level : LogLevel) (source : LogSource) (text : String) : StoreM Unit :=
  modify fun s => { s with toSurroundings := s.toSurroundings.record level source text }

/-- Draws random bytes. -/
def draw (n : Nat) : StoreM Bytes :=
  modifyGet fun s => let (bs, e) := s.entropy.draw n; (bs, { s with entropy := e })

/-- Changes the connection, or explains the refusal of the database. -/
def onConnection {α : Type} (activity : Activity) (entity : Option String)
    (f : Connection → Except DatabaseProblem (Connection × α)) : StoreM α := do
  let s ← get
  match f s.connection with
  | .ok (c, a) => set { s with connection := c }; return a
  | .error p => fail (p.toAgentError activity entity)

end StoreM

/-- Word for a truth value in diagnostic records. -/
def flagText (b : Bool) : String := if b then "True" else "False"

end MeshAgent
