import MeshAgent.Agent

/-!
# Calls as data

Every operation on a store, and every step on an open transaction, as a value that can be kept and
run later. The interfaces that a call takes are given as values of a type `ι`, so that a call can
also name them.
-/
namespace MeshAgent

/-- An operation that has a transaction of its own. -/
inductive Call (ι : Type)
  | ensure (iface : ι)
  | interface (id : Int)
  | interfaceByDevice (device network : String)
  | interfaces
  | lastLogByDevice (device network : String)
  | join (apiUrl : Option String) (privateKey : Bytes) (listenPort : Option Int)
      (response : JoinResponse) (message : String)
  | refresh (iface : ι) (response : JoinResponse) (message : String)
  | applied (iface : ι) (message : String)
  | failed (iface : ι) (operation message : String)
  | needsApply (iface : ι)
deriving Repr

/-- A step on a transaction that is under way. -/
inductive HandleCall (ι : Type)
  | ensure (iface : ι)
  | append (iface : ι) (operation state : String) (dirty : Bool) (message : String)
  | last (iface : ι)
  | lastNamed (device network : String)
  | commit
  | rollback
  | isFinished
deriving Repr

inductive Answer
  | nothing
  | id (id : Int)
  | interface (iface : Interface)
  | listed (items : List Store.Listed)
  | entry (entry : Option Entry)
  | flag (value : Bool)
deriving DecidableEq, Repr

namespace Call

/-- Runs a call for an agent with the given configuration. -/
def run (config : Config) : Call Interface → StoreM Answer
  | ensure i => return .id (← Store.ensureInterface i)
  | interface id => return .interface (← Store.interface id)
  | interfaceByDevice d n => return .interface (← Store.interfaceByDevice d n)
  | interfaces => return .listed (← Store.interfaces)
  | lastLogByDevice d n => return .entry (some (← Store.lastLogByDevice d n))
  | join apiUrl privateKey listenPort response message =>
    return .interface (← Agent.recordJoin config apiUrl privateKey listenPort response message)
  | refresh i response message => return .interface (← Agent.recordRefresh i response message)
  | applied i message => return .entry (some (← Agent.recordApplied i message))
  | failed i operation message => return .entry (some (← Agent.recordFailed i operation message))
  | needsApply i => return .flag (← Agent.needsApply i)

/-- The interface that a call takes. -/
def iface? {ι : Type} : Call ι → Option ι
  | ensure i => some i
  | refresh i .. => some i
  | applied i _ => some i
  | failed i .. => some i
  | needsApply i => some i
  | _ => none

/-- Runs a call, and tells how it ended and what became of the interface that it took. Only `ensure`
assigns to it; the others work on a copy or do not write it. -/
def perform (config : Config) :
    Call Interface → StoreM (Except Failure Answer × Option Interface)
  | ensure i => do
    let (outcome, held) ← HeldM.holding i Store.ensureHeld
    return (outcome.map .id, some held)
  | c => return (← StoreM.attempt (c.run config), c.iface?)

/-- Puts interfaces in the place of what stands for them. -/
def mapM {ι κ : Type} {m : Type → Type} [Monad m] (f : ι → m κ) : Call ι → m (Call κ)
  | ensure i => ensure <$> f i
  | interface id => pure (interface id)
  | interfaceByDevice d n => pure (interfaceByDevice d n)
  | interfaces => pure interfaces
  | lastLogByDevice d n => pure (lastLogByDevice d n)
  | join apiUrl privateKey listenPort response message =>
    pure (join apiUrl privateKey listenPort response message)
  | refresh i response message => do return refresh (← f i) response message
  | applied i message => do return applied (← f i) message
  | failed i operation message => do return failed (← f i) operation message
  | needsApply i => needsApply <$> f i

end Call

namespace HandleCall

/-- Runs a step on a transaction. -/
def run (h : Handle) : HandleCall Interface → StoreM Answer
  | ensure i => return .id (← Store.ensureInterfaceIn h i)
  | append i operation state dirty message =>
    return .entry (some (← History.appendNamed h i operation state dirty message))
  | last i => return .entry (← History.last h i)
  | lastNamed d n => return .entry (← History.lastNamed h d n)
  | commit => do Transaction.commit h; return .nothing
  | rollback => do Transaction.rollback h; return .nothing
  | isFinished => return .flag (← Transaction.isFinished h)

/-- The interface that a step takes. -/
def iface? {ι : Type} : HandleCall ι → Option ι
  | ensure i => some i
  | append i .. => some i
  | last i => some i
  | _ => none

/-- Runs a step, and tells how it ended and what became of the interface that it took. -/
def perform (h : Handle) :
    HandleCall Interface → StoreM (Except Failure Answer × Option Interface)
  | ensure i => do
    let (outcome, held) ← HeldM.holding i (Store.ensureHeldIn h)
    return (outcome.map .id, some held)
  | c => return (← StoreM.attempt (c.run h), c.iface?)

def mapM {ι κ : Type} {m : Type → Type} [Monad m] (f : ι → m κ) :
    HandleCall ι → m (HandleCall κ)
  | ensure i => ensure <$> f i
  | append i operation state dirty message =>
    do return append (← f i) operation state dirty message
  | last i => last <$> f i
  | lastNamed d n => pure (lastNamed d n)
  | commit => pure commit
  | rollback => pure rollback
  | isFinished => pure isFinished

end HandleCall

end MeshAgent
