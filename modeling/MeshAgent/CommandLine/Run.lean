import MeshAgent.CommandLine.Command
import MeshAgent.CommandLine.Setting
import MeshAgent.CommandLine.View
import MeshAgent.Home.Host

/-!
# Running a command

A command opens the store of an agent home without making anything but an empty database, reads from
it, closes it and prints. What goes wrong with the store is printed; the exit code is 1 then.
-/
namespace MeshAgent.CommandLine

/-- How a call of the program ended. A failure that nothing catches is shown apart. -/
structure Outcome where
  exitCode : Nat
  output : String
  exception : Option Failure := none
deriving DecidableEq, Repr

namespace Outcome

/-- Prints one thing after the other, up to the first failure. -/
def ofPrintout (exitCode : Nat) : View.Printout → Outcome
  | [] => { exitCode, output := "" }
  | .ok s :: rest =>
    let o := ofPrintout exitCode rest
    { o with output := s ++ o.output }
  | .error f :: _ => { exitCode := 1, output := "", exception := some f }

end Outcome

/-- Whether a failure is explained to the user: errors of the agent and of the system are. -/
def isExplained : Failure → Bool
  | .agent _ => true
  | .system _ => true
  | .timeOverflow => true
  | _ => false

/-- What is printed for a failure. -/
def explained (limit : Nat) (f : Failure) : Outcome :=
  if isExplained f then .ofPrintout 1 [View.text limit ("\n  [red]Error:[/] " ++ f.message ++ "\n")]
  else { exitCode := 1, output := "", exception := some f }

/-- Reads from the store of a home and closes it again. -/
def reading {α : Type} (reader : Yaml.Reader) (home : Path) (body : StoreM α) : HostM α := do
  let store ← Home.openStore home false reader
  let (outcome, store) ← modifyGet fun h =>
    let (outcome, store, h) := store.run body h
    ((outcome, store), h)
  modify fun h => (store.run Store.close h).2.2
  HostM.lift outcome

/-- An interface with its newest entry; it need not have any. -/
def interfaceAndLast (device network : String) : StoreM (Interface × Option Entry) := do
  let iface ← Store.interfaceByDevice device network
  let last ← tryCatch (some <$> Store.lastLogByDevice device network) fun f =>
    match f with
    | .agent e => if e.kind = .notFound then return none else throw f
    | _ => throw f
  return (iface, last)

namespace Command

def home? : Command → Option String
  | status home => home
  | show_ _ _ home => home

/-- Whether a missing home is told apart from a home without a store key. -/
def needsHome : Command → Bool
  | status _ => true
  | show_ .. => false

/-- The things to print, if the store can be read. -/
def printout (s : Setting) (home : Path) : Command → HostM View.Printout
  | status _ => do
    let listed ← reading s.reader home Store.interfaces
    return View.interfaces s.columns (← get).now listed
  | show_ device network _ => do
    let (iface, last) ← reading s.reader home (interfaceAndLast device network)
    return View.interface s.columns iface last

def run (s : Setting) (c : Command) : StateM Host Outcome := do
  match s.home c.home? with
  | .error f => return { exitCode := 1, output := "", exception := some f }
  | .ok home =>
    if c.needsHome && !(← get).files.isPresent home then
      return .ofPrintout 1 [View.text s.columns "[bold red]No agent found.[/] Join a network first."]
    match ← (c.printout s home).run with
    | .ok p => return .ofPrintout 0 p
    | .error f => return explained s.columns f

end Command

/-- A diagnostic record as a line. -/
def recordLine (r : LogRecord) : String :=
  r.level.name ++ ":" ++ r.source.name ++ ":" ++ r.text ++ "\n"

/-- Runs the program. If it is verbose, the diagnostic records come first. -/
def run (s : Setting) (arguments : List String) : StateM Host Outcome := do
  match Request.ofArguments arguments with
  | .help t => return { exitCode := 0, output := t.help s.programName }
  | .version => return { exitCode := 0, output := "meshgarden, version " ++ version ++ "\n" }
  | .nothing => return { exitCode := 2, output := Topic.program.help s.programName }
  | .misuse t p => return { exitCode := 2, output := t.complaint s.programName p }
  | .command verbose c =>
    let before := (← get).records.length
    let outcome ← c.run s
    if verbose then
      let records := (← get).records.drop before
      return { outcome with output := String.join (records.map recordLine) ++ outcome.output }
    return outcome

end MeshAgent.CommandLine
