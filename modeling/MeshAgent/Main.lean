import MeshAgent.CommandLine.Run
import MeshAgent.Database.Image
import Std.Time.DateTime.Timestamp

/-!
# The program

The command line on a real host. The few files that a command looks at are read first, the command
runs on what was read, and its output is printed. Nothing is written.
-/
namespace MeshAgent.CommandLine.Program

/-- What stands at a place. What is there and cannot be read as a file counts as a directory. -/
def look (place : Place) : IO (Option FileNode) := do
  try
    let content := (← IO.FS.readBinFile ("/" ++ String.intercalate "/" place)).toList
    match Tables.ofFile? content with
    | some tables => return some (.database tables)
    | none => return some (.plain content)
  catch e =>
    match e with
    | .noFileOrDirectory .. => return none
    | _ => return some .directory

/-- The place of a path, a double dot taken back. -/
def absolute (here : Place) (p : Path) : Place :=
  p.names.foldl (fun place name => if name = ".." then place.dropLast else place ++ [name])
    (if p.root = "" then here else [])

/-- Reads what stands at a path and on the way to it. -/
def gather (files : Files) (p : Path) : IO Files := do
  let place := absolute files.workingDirectory p
  (List.range place.length).foldlM (fun files n => do
    match ← look (place.take (n + 1)) with
    | some node => return files.put (place.take (n + 1)) node
    | none => return files) files

/-- The home that a command means. A call without a command means none. -/
def homeOf (s : Setting) (arguments : List String) : Option Path :=
  match Request.ofArguments arguments with
  | .command _ c => (s.home c.home?).toOption
  | _ => none

/-- Reads the files that a command needs; the configuration says where they are. -/
def gatherHome (host : Host) (home : Path) : IO Host := do
  let files ← gather host.files (Home.configFile home)
  let host := { host with files }
  match ((Home.loadConfig home).run.run host).1 with
  | .error _ => return host
  | .ok config =>
    let files ← gather files (home / config.keyFile)
    let files ← gather files (home / config.dbFile)
    return { host with files }

def getSetting : IO Setting := do
  let userHome := Path.ofText ((← IO.getEnv "HOME").getD "/")
  let agentHome := (← IO.getEnv "MESHGARDEN_HOME").getD defaultHome
  let columns := (((← IO.getEnv "COLUMNS").bind String.toNat?).filter (0 < ·)).getD 80
  return { programName := "meshgarden", userHome, agentHome, columns }

def getHost : IO Host := do
  let now := (← Std.Time.Timestamp.now).toNanosecondsSinceUnixEpoch.val / 1000
  let random ← IO.getRandomBytes 64
  let here := absolute [] (Path.ofText (← IO.currentDir).toString)
  return { now, entropy := Entropy.ofList random.toList, files := { workingDirectory := here } }

def run (arguments : List String) : IO UInt32 := do
  let setting ← getSetting
  let host ← getHost
  let host ← match homeOf setting arguments with
    | some home => gatherHome host home
    | none => pure host
  let (outcome, _) := (CommandLine.run setting arguments).run host
  IO.print outcome.output
  if let some f := outcome.exception then IO.eprintln f.message
  return UInt32.ofNat outcome.exitCode

end MeshAgent.CommandLine.Program

/-- Prints what the arguments ask for; the exit code says whether it could be done. -/
def main (arguments : List String) : IO UInt32 := MeshAgent.CommandLine.Program.run arguments
