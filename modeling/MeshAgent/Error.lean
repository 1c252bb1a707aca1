import MeshAgent.Text.Quoted

/-!
# Agent errors

Every error names the activity that failed and, where known, the field or identity it concerns. The
kind tells a caller how to react; the reason is a value, and its wording stands in one function.
-/
namespace MeshAgent

inductive ErrorKind
  | general
  | validation
  | conflict
  | notFound
  | crypto
  | parse
  | storage
deriving DecidableEq, Repr

namespace ErrorKind

def name : ErrorKind → String
  | general => "error"
  | validation => "validation"
  | conflict => "conflict"
  | notFound => "not-found"
  | crypto => "crypto"
  | parse => "parse"
  | storage => "storage"

/-- Only the database can recover by itself. -/
def retryable (k : ErrorKind) : Bool := k = storage

/-- Stored data or the store key is damaged: no retry and no other input helps. -/
def fatal (k : ErrorKind) : Bool := k = crypto ∨ k = parse

end ErrorKind

/-- Number of a message, in decimal. -/
def shown (n : Int) : String := String.ofList (Decimal.writeInt n)

/-- Why a text is not `host:port`. -/
inductive EndpointProblem
  | missingBracket
  | missingPort
  | tooManyColons
  | unexpectedBracket
  | portText (text : String)
  | portNumber (port : Nat)
deriving DecidableEq, Repr

def EndpointProblem.message : EndpointProblem → String
  | missingBracket => "missing ']'"
  | missingPort => "missing port"
  | tooManyColons => "too many colons"
  | unexpectedBracket => "unexpected bracket"
  | portText t => "invalid port " ++ Text.quote t
  | portNumber p => "invalid port " ++ shown p

/-- What went wrong. -/
inductive Reason
  | keyLength (length : Nat)
  | machineIdLength (length : Nat)
  | storeKeyLength (length : Nat)
  | port (number : Int)
  | endpoint (problem : EndpointProblem) (text : String)
  /-- An endpoint of a request, refused for the inner reason. -/
  | requestEndpoint (inner : Reason)
  | keyText (text : String)
  | addressText (text : String)
  | secretTooShort
  | secretRefused
  /-- A stored secret that does not open, for the inner reason. -/
  | storedSecret (field : String) (inner : Reason)
  | storedText (field text : String)
  /-- A stored log entry whose text is no member of the named set. -/
  | logEntry (id : Int) (text set : String)
  /-- An identity held by another interface; `none` if the database does not name it. -/
  | alreadyInUse (identity : Option String)
  | danglingReference
  | noInterface (id : Int)
  | noInterfaceFor (device network : String)
  | noLogFor (device network : String)
  | storeClosed
  | transactionFinished
  /-- Text given by the database or by a caller. -/
  | text (text : String)
deriving DecidableEq, Repr

def Reason.message : Reason → String
  | keyLength n => "invalid key length " ++ shown n
  | machineIdLength n => "invalid machine ID length " ++ shown n
  | storeKeyLength n => "invalid store key length " ++ shown n
  | port p => "invalid port " ++ shown p
  | endpoint p t => p.message ++ " in " ++ Text.quote t
  | requestEndpoint r => "invalid endpoint: " ++ r.message
  | keyText t => "invalid key " ++ Text.quote t
  | addressText t => "invalid address " ++ Text.quote t
  | secretTooShort => "invalid secret value"
  | secretRefused => "decrypt failed"
  | storedSecret f r => "failed to decrypt " ++ f ++ ": " ++ r.message
  | storedText f t => "invalid " ++ f ++ " " ++ Text.quote t
  | logEntry i t s =>
    "invalid log entry " ++ shown i ++ ": " ++ Text.quote t ++ " is not a valid " ++ s
  | alreadyInUse i => i.getD "None" ++ " already in use"
  | danglingReference => "referenced interface does not exist"
  | noInterface i => "interface " ++ shown i ++ " does not exist"
  | noInterfaceFor d n =>
    "no interface for device name " ++ Text.quote d ++ " network name " ++ Text.quote n
  | noLogFor d n => "no log for device name " ++ Text.quote d ++ " network name " ++ Text.quote n
  | storeClosed => "store is closed"
  | transactionFinished => "transaction already finished"
  | text t => t

/-- What was being attempted. -/
inductive Activity
  | parseKey
  | parseAddress
  | parseEndpoint
  | derivePublicKey
  | encryptSecret
  | decryptSecret
  | validateJoin
  | validateRefresh
  | loadStoreKey
  | openStore
  | openDatabase
  | beginTransaction
  | commitTransaction
  | executeStatement
  | upsertInterface (label : String)
  | replacePeers (label : String)
  | insertPeer (id : String)
  | appendLog (label : String)
  | queryLastLog (label : String)
  | queryLog
  | queryDeviceLog
  | queryDevice
  | queryInterface (id : Int)
  | queryInterfaces
  | recordJoin
  | recordRefresh
  | named (text : String)
deriving DecidableEq, Repr

def Activity.text : Activity → String
  | parseKey => "parse key"
  | parseAddress => "parse address"
  | parseEndpoint => "parse endpoint"
  | derivePublicKey => "derive public key"
  | encryptSecret => "encrypt secret"
  | decryptSecret => "decrypt secret"
  | validateJoin => "validate join request"
  | validateRefresh => "validate refresh request"
  | loadStoreKey => "load store key"
  | openStore => "open store"
  | openDatabase => "open database"
  | beginTransaction => "begin transaction"
  | commitTransaction => "commit transaction"
  | executeStatement => "execute statement"
  | upsertInterface l => "upsert interface " ++ Text.quote l
  | replacePeers l => "replace peers of interface " ++ Text.quote l
  | insertPeer i => "insert peer " ++ Text.quote i
  | appendLog l => "append log for interface " ++ Text.quote l
  | queryLastLog l => "query last log for interface " ++ Text.quote l
  | queryLog => "query interface log"
  | queryDeviceLog => "query interface last log"
  | queryDevice => "query interface"
  | queryInterface i => "query interface " ++ shown i
  | queryInterfaces => "query interfaces"
  | recordJoin => "record join"
  | recordRefresh => "record refresh"
  | named t => t

/-- One link of a chain of errors. -/
structure Fault where
  kind : ErrorKind
  reason : Reason
  activity : Option Activity := none
  /-- The field or identity concerned. -/
  entity : Option String := none
deriving DecidableEq, Repr

namespace Fault

def message (f : Fault) : String := f.reason.message

/-- An activity without a name is not mentioned. -/
def text (f : Fault) : String :=
  match f.activity with
  | none => f.message
  | some a => if a.text = "" then f.message else "failed to " ++ a.text ++ ": " ++ f.message

end Fault

/-- An error together with the errors it was raised from, nearest first. -/
structure AgentError extends Fault where
  causes : List Fault := []
deriving DecidableEq, Repr

namespace AgentError

def validation (reason : Reason) (activity : Activity) (entity : String) : AgentError :=
  { kind := .validation, reason, activity := some activity, entity := some entity }

/-- The same error, raised while another one was being handled. -/
def raisedFrom (e cause : AgentError) : AgentError :=
  { e with causes := cause.toFault :: cause.causes }

end AgentError

end MeshAgent
