import MeshAgent.Config
import MeshAgent.Home.Files
import MeshAgent.Store.Read

/-!
# The agent home on a host

A host has files, a clock and a source of random bytes. The agent home on it holds the
configuration, the store key and the database. A store key that is there is never replaced, since
everything sealed under it would be lost.
-/
namespace MeshAgent

structure Host extends Surroundings where
  files : Files := {}

/-- What can be done on a host. A failure keeps what was done before it. -/
abbrev HostM := ExceptT Failure (StateM Host)

/-- An open store and the place of its database; without a place nobody else sees it. -/
structure MountedStore extends OpenStore where
  place : Option Place := none

namespace MountedStore

/-- The tables that are durable for the store. -/
def durable (m : MountedStore) (files : Files) : Tables :=
  match m.place.bind files.find? with
  | some (.database t) => t
  | _ => m.connection.durable

/-- Works on a store. What it makes durable is in its file afterwards. -/
def run {α : Type} (m : MountedStore) (x : StoreM α) (host : Host) :
    Except Failure α × MountedStore × Host :=
  let before := m.durable host.files
  let (outcome, s) := x.run
    { toOpenStore := { m.toOpenStore with connection := m.connection.follow before }
      toSurroundings := host.toSurroundings }
  let files := match m.place with
    | some p =>
      if s.connection.durable = before then host.files
      else host.files.put p (.database s.connection.durable)
    | none => host.files
  (outcome, { m with toOpenStore := s.toOpenStore }, { toSurroundings := s.toSurroundings, files })

end MountedStore

namespace HostM

/-- Takes over a pure result. -/
def lift {α : Type} : Except Failure α → HostM α
  | .ok a => pure a
  | .error f => throw f

def record (level : LogLevel) (source : LogSource) (text : String) : HostM Unit :=
  modify fun h => { h with toSurroundings := h.toSurroundings.record level source text }

/-- Takes something from the random source. -/
def random {α : Type} (f : Entropy → α × Entropy) : HostM α :=
  modifyGet fun h => let (a, e) := f h.entropy; (a, { h with entropy := e })

/-- Looks at the files. -/
def look {α : Type} (f : Files → Except Failure α) : HostM α := do lift (f (← get).files)

/-- Changes the files. -/
def change (f : Files → Except Failure Files) : HostM Unit := do
  let files ← look f
  modify fun h => { h with files }

end HostM

namespace Home

open HostM

def configFile (home : Path) : Path := home / "config" / "config.yaml"

/-- The configuration of a home. A missing file means the default one, and so does a file that is
refused, with a warning. -/
def loadConfig (home : Path) (reader : Yaml.Reader := Yaml.load) : HostM Config := do
  if !(← get).files.isPresent (configFile home) then return {}
  let bytes ← look fun f => f.read (configFile home)
  match Config.ofBytes reader bytes with
  | .ok c => return c
  | .error .refused =>
    record .warning .configuration "Failed to load config, using defaults"
    return {}
  | .error (.broken failure) => throw failure

/-- Writes the configuration of a home and returns where. -/
def saveConfig (home : Path) (c : Config) : HostM Path := do
  change fun f => f.makeDirectory (home / "config")
  change fun f => f.write (configFile home) (Bytes.ofText (String.ofList c.write))
  return configFile home

/-- The store key in a file; a file of another length holds none. -/
def loadStoreKey (path : Path) : HostM Bytes := do
  let key ← look fun f => f.read path
  if key.length = SecretBox.keySize then return key
  throw (.agent
    { kind := .crypto, reason := .storeKeyLength key.length, activity := some .loadStoreKey
      entity := some path.text })

/-- The store key in a file, which is made with a new key if it is missing. -/
def loadOrCreateStoreKey (path : Path) : HostM Bytes := do
  if (← get).files.isPresent path then loadStoreKey path
  else
    change fun f => f.makeDirectory path.parent
    let key ← random Secret.generateKey
    change fun f => f.create path key
    record .info .configuration ("Generated new store key at " ++ path.text)
    return key

/-- The path of a database that has no file. -/
def memoryPath : String := ":memory:"

/-- The files beside a database by which it keeps track of what is being written. They come and go with
the database, and what they hold counts as part of it. -/
def sideFiles (database : Place) : List Place :=
  ["-journal", "-wal", "-shm"].map fun suffix =>
    database.dropLast ++ [database.getLastD "" ++ suffix]

/-- Finds the database at a path and makes an empty one if there is none. A file of a single byte counts
as empty. -/
def connect (path : String) : HostM (Option Place) := do
  if path = "" ∨ path = memoryPath then return none
  if (Path.ofText path).hasNull then throw .nullInPath
  let refuse (p : DatabaseProblem) : HostM (Option Place) :=
    throw (.agent (p.toAgentError .openDatabase (some path)))
  let files := (← get).files
  match files.place (Path.ofText path) with
  | .error _ => refuse .cannotOpen
  | .ok place =>
    match files.find? place, files.find? place.dropLast with
    | some (.database _), _ => return some place
    | some .directory, _ => refuse .cannotOpen
    | some (.plain (_ :: _ :: _)), _ => refuse .notADatabase
    | _, some .directory =>
      change fun f => .ok (f.put place (.database {}))
      return some place
    | _, _ => refuse .cannotOpen

/-- Opens the store with the given database and key. -/
def openDatabase (path : String) (key : Bytes) : HostM MountedStore := do
  lift (orFail (Secret.checkStoreKey key .openStore))
  let place ← connect path
  record .debug .store ("Opened store " ++ path)
  return { store := { path, key }, place }

/-- Opens the store of a home. Only if `create` is given, a missing store key is made. -/
def openStore (home : Path) (create : Bool) (reader : Yaml.Reader := Yaml.load) :
    HostM MountedStore := do
  let config ← loadConfig home reader
  let keyFile := home / config.keyFile
  let key ← if create then loadOrCreateStoreKey keyFile else loadStoreKey keyFile
  change fun f => f.makeDirectory home
  openDatabase (home / config.dbFile).text key

end Home

namespace Store

/-- Closes the connection of a store, and says how many there were. -/
def close : StoreM Unit := do
  let s ← get
  let open_ := if s.connection.closed then 0 else 1
  set { s with connection := s.connection.close }
  StoreM.record .debug .store
    ("Closed store " ++ s.store.path ++ " (" ++ shown open_ ++ " connections)")

end Store

end MeshAgent
