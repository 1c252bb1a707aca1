import MeshAgent.CommandLine.Setting
import MeshAgent.Home.Host
import MeshAgent.Session.Step

/-!
# Workspaces

A session works in a directory of its own, with an agent home in it. What it has opened and made is
kept under names. A store that was opened stays, also if its name is given to another one.
-/
namespace MeshAgent.Session

/-- A store and the configuration of the agent that works on it. -/
structure AgentStore extends MountedStore where
  config : Config := {}

structure Workspace extends Host where
  home : Path
  /-- Where programs are called. -/
  setting : CommandLine.Setting
  stores : List AgentStore := []
  /-- Which store a name stands for, the latest name first. -/
  storeNames : List (String × Nat) := []
  interfaces : List (String × Interface) := []
  /-- Files that steps have written. -/
  written : List Path := []
  /-- Place of the database that was opened last. -/
  lastPlace : Option Place := none

/-- What a step does. A failure keeps what was done before it. -/
abbrev SessionM := ExceptT Failure (StateM Workspace)

namespace SessionM

/-- Does something on the host. -/
def onHost {α : Type} (x : HostM α) : SessionM α := do
  let w ← get
  let (outcome, host) := x.run.run w.toHost
  set { w with toHost := host }
  match outcome with
  | .ok a => return a
  | .error f => throw f

/-- What a name stands for in a list of names. -/
def named {α : Type} (names : List (String × α)) (name : String) : SessionM α :=
  match names.lookup name with
  | some a => pure a
  | none => throw (.unknownName name)

def interface (name : String) : SessionM Interface := do named (← get).interfaces name

def setInterface (name : String) (i : Interface) : SessionM Unit :=
  modify fun w => { w with interfaces := (name, i) :: w.interfaces }

def storeNumber (name : String) : SessionM Nat := do named (← get).storeNames name

def store (number : Nat) : SessionM AgentStore := do
  match (← get).stores[number]? with
  | some s => return s
  | none => throw (.unknownName (toString number))

/-- Works on a store. -/
def onStore {α : Type} (number : Nat) (x : StoreM α) : SessionM α := do
  let s ← store number
  let w ← get
  let (outcome, m, host) := s.toMountedStore.run x w.toHost
  set { w with toHost := host, stores := w.stores.set number { s with toMountedStore := m } }
  match outcome with
  | .ok a => return a
  | .error f => throw f

/-- Gives a name to a store that has been opened. -/
def addStore (name : String) (m : MountedStore) : SessionM Unit :=
  modify fun w =>
    { w with
      stores := w.stores ++ [{ toMountedStore := m }]
      storeNames := (name, w.stores.length) :: w.storeNames
      lastPlace := m.place }

end SessionM

namespace Workspace

/-- The tables of the database that was opened last, as they are in its file. -/
def tables? (w : Workspace) : Option Tables :=
  match w.lastPlace.bind w.files.find? with
  | some (.database t) => some t
  | _ => none

/-- The clock at the start of a session. -/
def startTime : Int := 1700000000 * 1000000

/-- The directory that a session works in. -/
def directory : Place := ["work"]

def homeName : String := "home"

/-- An empty workspace, with or without the directory of the agent home. -/
def start (entropy : Entropy) (setting : CommandLine.Setting) (makesHome : Bool) : Workspace :=
  let nodes := [(directory, FileNode.directory)]
  { now := startTime, entropy, setting
    home := Path.ofText homeName
    files :=
      { workingDirectory := directory
        nodes := if makesHome then (directory ++ [homeName], .directory) :: nodes else nodes } }

end Workspace

end MeshAgent.Session
