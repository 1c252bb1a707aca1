import MeshAgent.Session.Reply
import MeshAgent.Session.Workspace

/-!
# Running a session

Every step of a session has a reply, whatever happened before. Inside a block the first failure ends
the block, unless the step is caught; what the block has done until then is up to its transaction.
-/
namespace MeshAgent.Session

/-- A transaction of a store that steps can work on. -/
structure Scope where
  store : Nat
  handle : Handle

namespace Action

open SessionM

/-- Takes note of what became of an interface that was handed to a call or a step. -/
def giveBack (name : Option String) (i : Option Interface) : SessionM Unit := do
  if let (some name, some i) := (name, i) then setInterface name i

/-- Takes note of the interface that a call has returned. -/
def keep (into : Option String) : Answer → SessionM Unit
  | .interface i => do
    if let some name := into then setInterface name i
  | _ => return ()

/-- The answer of a call or a step, or the failure that it ended with. -/
def answerOf (outcome : Except Failure Answer) : SessionM Answer :=
  match outcome with
  | .ok a => pure a
  | .error f => throw f

def runCall (storeName : String) (call : Call String) (into : Option String) :
    SessionM Reply := do
  let n ← storeNumber storeName
  let named ← call.mapM interface
  let (outcome, held) ← onStore n (named.perform (← store n).config)
  giveBack call.iface? held
  let a ← answerOf outcome
  keep into a
  return .answer a

def runHandle (scope : Option Scope) (call : HandleCall String) : SessionM Reply := do
  match scope with
  | none => throw (.unknownName "transaction")
  | some s =>
    let named ← call.mapM interface
    let (outcome, held) ← onStore s.store (named.perform s.handle)
    giveBack call.iface? held
    return .answer (← answerOf outcome)

/-- The reply to a key in a file. A key that no step has written is only described. -/
def keyReply (path : Path) (key : Bytes) : SessionM Reply := do
  let w ← get
  if path ∈ w.written then return .key key
  let stored := (w.files.read path).toOption = some key
  return .freshKey key.length stored

/-- Damages a stored value through a connection of its own. -/
def runDamage (table column : String) (id : Int) (d : Damage) : SessionM Reply := do
  let w ← get
  match w.lastPlace, w.tables? with
  | some place, some tables =>
    match tables.damage table column id d with
    | .ok (tables, count) =>
      set { w with files := w.files.put place (.database tables) }
      return .rows count
    | .error f => throw f
  | _, _ => throw (.unknownName "database")

/-- Carries out an action. -/
def perform (scope : Option Scope) : Action → SessionM Reply
  | call store c into => runCall store c into
  | handle c => runHandle scope c
  | openDatabase store path key => do
    addStore store (← onHost (Home.openDatabase path key))
    return .done
  | openHome store create => do
    let home := (← get).home
    addStore store (← onHost (Home.openStore home create))
    let _ ← onHost (Home.loadConfig home)
    return .done
  | close store => do
    onStore (← storeNumber store) Store.close
    return .done
  | configure store config => do
    let n ← storeNumber store
    modify fun w => { w with stores := w.stores.modify n fun s => { s with config } }
    return .done
  | setClock t => do
    modify fun w => { w with now := t }
    return .done
  | hold i into => do
    setInterface into i
    return .answer (.interface i)
  | copy name into => do
    let i ← interface name
    setInterface into i
    return .answer (.interface i)
  | change name changes => do
    changes.forM fun c => do
      match (← interface name).change c with
      | .ok i => setInterface name i
      | .error f => throw f
    return .done
  | describe name => return .described (← interface name)
  | damage table column id d => runDamage table column id d
  | dump => do
    match (← get).tables? with
    | some t => return .tables t
    | none => throw (.unknownName "database")
  | write path content => do
    let path := (← get).home / path
    onHost (HostM.change fun f => f.makeDirectory path.parent)
    onHost (HostM.change fun f => f.write path content)
    modify fun w => { w with written := path :: w.written }
    return .done
  | read path => do
    let path := (← get).home / path
    let bytes ← onHost (HostM.look fun f => f.read path)
    return .text ((Bytes.toText? bytes).getD "")
  | listFiles => do
    let w ← get
    return .paths (w.files.below w.home)
  | loadConfig => do return .config (← onHost (Home.loadConfig (← get).home))
  | saveConfig config => do
    let path ← onHost (Home.saveConfig (← get).home config)
    return .written path.text (String.ofList config.write)
  | loadKey path => do
    let path := (← get).home / path
    keyReply path (← onHost (Home.loadStoreKey path))
  | loadOrCreateKey path => do
    let path := (← get).home / path
    keyReply path (← onHost (Home.loadOrCreateStoreKey path))
  | commandLine arguments => do
    return .printed (← onHost (ExceptT.lift (CommandLine.run (← get).setting arguments)))
  | fail f => throw f

/-- The id of the interface that an action was to store. -/
def storedId? (w : Workspace) : Action → Option Int
  | call _ (.ensure name) _ => (w.interfaces.lookup name).map (·.id)
  | _ => none

def run (scope : Option Scope) (a : Action) : StateM Workspace Reply := do
  match ← (a.perform scope).run with
  | .ok r => return r
  | .error f => return .failed f (a.storedId? (← get))

end Action

/-- What a block of steps has left behind, besides its outcome. -/
structure Block extends Workspace where
  last : Option Entry := none
  replies : List Reply := []

/-- What is done inside a block. -/
abbrev BlockM := ExceptT Failure (StateM Block)

namespace BlockM

def inSession {α : Type} (x : SessionM α) : BlockM α := do
  let b ← get
  let (outcome, w) := x.run.run b.toWorkspace
  set { b with toWorkspace := w }
  match outcome with
  | .ok a => return a
  | .error f => throw f

/-- Runs the steps of a block and fails as they do. -/
def runSteps (steps : StateM Workspace (List Reply × Option Failure)) : BlockM Unit := do
  let b ← get
  let ((replies, failure), w) := steps.run b.toWorkspace
  set { b with toWorkspace := w, replies }
  match failure with
  | none => return ()
  | some f => throw f

/-- Runs a block and tells what it has left behind. -/
def enclose {α : Type} (x : BlockM α) : StateM Workspace (Except Failure α × Block) := do
  let (outcome, b) := x.run.run { toWorkspace := ← get }
  set b.toWorkspace
  return (outcome, b)

/-- Runs `body` with the newest entry of an interface, which is also kept for the reply. -/
def withLog (store name : String) (body : Scope → BlockM Unit) : BlockM Unit := do
  let n ← inSession (SessionM.storeNumber store)
  let iface ← inSession (SessionM.interface name)
  Store.withLog (fun x => inSession (SessionM.onStore n x)) iface fun h last => do
    modify fun b => { b with last }
    body ⟨n, h⟩

def transaction (store : String) (write : Bool) (body : Scope → BlockM Unit) : BlockM Unit := do
  let n ← inSession (SessionM.storeNumber store)
  Transaction.scope (fun x => inSession (SessionM.onStore n x)) write fun h => body ⟨n, h⟩

end BlockM

namespace Step

mutual

/-- Runs a step; the failure that it ends with, if any, is in its reply. -/
def run (scope : Option Scope) : Step → StateM Workspace Reply
  | act a => a.run scope
  | withLog store name body result => do
    let (outcome, b) ← (BlockM.withLog store name fun s => BlockM.runSteps (runAll s body)).enclose
    return .withLog b.last b.replies (outcome.map fun _ => result)
  | transaction store write body => do
    let (outcome, b) ←
      (BlockM.transaction store write fun s => BlockM.runSteps (runAll s body)).enclose
    return .transaction b.replies outcome
  | caught s => run scope s

/-- Runs the steps of a block up to the first failure that is not caught. -/
def runAll (scope : Scope) : List Step → StateM Workspace (List Reply × Option Failure)
  | [] => return ([], none)
  | s :: rest => do
    let reply ← run (some scope) s
    if s.isCaught ∨ reply.failure? = none then
      let (replies, failure) ← runAll scope rest
      return (reply :: replies, failure)
    else return ([reply], reply.failure?)

end

end Step

/-- What a session is to do. -/
structure Script where
  /-- The key of a store that is opened before the first step. -/
  key : Option Bytes := none
  makesHome : Bool := true
  steps : List Step

/-- What can be seen of a session that is over. -/
structure Transcript where
  replies : List Reply
  /-- The tables of the database that was opened last. -/
  final : Option Tables
  records : List LogRecord

/-- Name of the store that a step works on if it names none. -/
def mainStore : String := "main"

/-- Name of a database in the agent home. -/
def databaseFile : String := ({} : Config).dbFile

/-- The step that opens a store in the agent home. -/
def Script.opening (p : Script) (home : Path) : List Step :=
  (p.key.map fun key =>
    Step.act (.openDatabase mainStore (home / databaseFile).text key)).toList

/-- Runs a session in a workspace of its own. -/
def Script.run (p : Script) (entropy : Entropy) (setting : CommandLine.Setting) : Transcript :=
  let start := Workspace.start entropy setting p.makesHome
  let steps : StateM Workspace (List Reply) := do
    let _ ← (p.opening start.home).mapM (Step.run none)
    p.steps.mapM (Step.run none)
  let (replies, w) := steps.run start
  { replies, final := w.tables?, records := w.records }

end MeshAgent.Session
