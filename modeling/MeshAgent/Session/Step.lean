import MeshAgent.Agent.Call
import MeshAgent.Database.Damage
import MeshAgent.Interface.Change

/-!
# Steps of a session

A session is a list of steps. Stores and interfaces have names in it, so that a later step can use
what an earlier one has made; a name stands for what it was given to last. An action is a step that
holds no other steps.
-/
namespace MeshAgent.Session

inductive Action
  /-- Calls an operation of a store. The interface that it returns can be given a name. -/
  | call (store : String) (call : Call String) (into : Option String)
  /-- Works on the innermost transaction that is under way. -/
  | handle (call : HandleCall String)
  | openDatabase (store path : String) (key : Bytes)
  | openHome (store : String) (create : Bool)
  | close (store : String)
  | configure (store : String) (config : Config)
  /-- Sets the clock, in microseconds since the start of 1970. -/
  | setClock (microseconds : Int)
  | hold (interface : Interface) (into : String)
  | copy (name into : String)
  | change (name : String) (changes : List Interface.Change)
  | describe (name : String)
  | damage (table column : String) (id : Int) (damage : Damage)
  | dump
  | write (path : String) (content : Bytes)
  | read (path : String)
  | listFiles
  | loadConfig
  | saveConfig (config : Config)
  | loadKey (path : String)
  | loadOrCreateKey (path : String)
  | commandLine (arguments : List String)
  | fail (failure : Failure)
deriving Repr

inductive Step
  | act (action : Action)
  /-- Runs steps with the newest entry at hand and commits what they do. -/
  | withLog (store name : String) (body : List Step) (result : Datum)
  /-- Runs steps in a transaction, which nothing but one of them commits. -/
  | transaction (store : String) (write : Bool) (body : List Step)
  /-- A step whose failure does not end the block that it stands in. -/
  | caught (step : Step)
deriving Repr

def Step.isCaught : Step → Bool
  | caught _ => true
  | _ => false

end MeshAgent.Session
