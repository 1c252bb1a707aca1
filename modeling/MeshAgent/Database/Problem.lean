import MeshAgent.Error
import MeshAgent.Text.Blank
import MeshAgent.Text.Split

/-!
# Refusals of the database

The database refuses a statement with a text. Broken constraints become errors about identities and
references; everything else is a failure of the storage itself.
-/
namespace MeshAgent

inductive DatabaseProblem
  /-- Values that another row holds, by the name of the identity if it is known. -/
  | notUnique (identity : Option String)
  | noReference
  | other (text : String)
deriving DecidableEq, Repr

/-- The identities of an interface: no two interfaces share one. -/
inductive Identity
  | publicKey
  | networkAndDeviceName
  | deviceId
deriving DecidableEq, Repr

namespace Identity

def name : Identity → String
  | publicKey => "public key"
  | networkAndDeviceName => "network and device name"
  | deviceId => "device id"

/-- The columns that hold an identity. -/
def columns : Identity → String
  | publicKey => "iface.public_key"
  | networkAndDeviceName => "iface.net_name, iface.device_name"
  | deviceId => "iface.device_id"

def all : List Identity := [publicKey, networkAndDeviceName, deviceId]

end Identity

namespace DatabaseProblem

/-- Name of what the columns of a broken constraint identify; unknown columns name themselves. -/
def identityOfColumns (columns : String) : Option String :=
  match Identity.all.find? fun i => i.columns = columns with
  | some i => some i.name
  | none => if columns = "" then none else some columns

/-- The columns that the text of a refusal names. -/
def columnsOf (text : String) : String :=
  match Text.after? "UNIQUE constraint failed:".toList text.toList with
  | some rest => String.ofList (Text.trim Text.isBlank rest)
  | none => ""

/-- Reads the text of a refusal. Only `integrity` refusals are about constraints. -/
def ofText (integrity : Bool) (text : String) : DatabaseProblem :=
  let holds (word : String) : Bool := (Text.after? word.toList text.toList).isSome
  if integrity && holds "UNIQUE" then notUnique (identityOfColumns (columnsOf text))
  else if integrity && holds "FOREIGN KEY" then noReference
  else other text

/-- The agent error for a refusal. A conflict names the identity unless another entity is given. -/
def toAgentError (p : DatabaseProblem) (activity : Activity) (entity : Option String) : AgentError :=
  match p with
  | notUnique identity =>
    { kind := .conflict, reason := .alreadyInUse identity, activity := some activity
      entity := match entity with
        | some e => if e = "" then identity else some e
        | none => identity }
  | noReference =>
    { kind := .notFound, reason := .danglingReference, activity := some activity, entity }
  | other text => { kind := .storage, reason := .text text, activity := some activity, entity }

def nestedTransaction : DatabaseProblem :=
  other "cannot start a transaction within a transaction"
def nothingToCommit : DatabaseProblem := other "cannot commit - no transaction is active"
def nothingToRollBack : DatabaseProblem := other "cannot rollback - no transaction is active"
/-- A new id is needed and the largest one is taken. -/
def idsExhausted : DatabaseProblem := other "database or disk is full"
def cannotOpen : DatabaseProblem := other "unable to open database file"
def notADatabase : DatabaseProblem := other "file is not a database"

/-- Whether the database gives up the whole transaction with the statement that it refuses. -/
def endsTransaction (p : DatabaseProblem) : Bool := p = idsExhausted

end DatabaseProblem

end MeshAgent
