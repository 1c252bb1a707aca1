import MeshAgent.CommandLine.Status
import MeshAgent.Store.Read
import MeshAgent.Terminal.Panel
import MeshAgent.Terminal.Table

/-!
# What is shown of interfaces

A table of all interfaces, and a panel for one of them with a table of its peers. Every text may
hold markup, so printing may fail, and then what was printed before stays.
-/
namespace MeshAgent.View

/-- Things printed one after the other. -/
abbrev Printout := List (Except Failure String)

def ofLines (lines : List (List Char)) : String :=
  String.ofList (lines.flatMap fun l => l ++ ['\n'])

def blankLine : Except Failure String := .ok "\n"

/-- A marked-up text in lines of at most `limit` cells. -/
def text (limit : Nat) (s : String) : Except Failure String := do
  let cs ← Markup.render s.toList
  return ofLines (Lines.wrap limit .none .fold cs)

def table (limit : Nat) (columns : List Column) : Except Failure String := do
  return ofLines (← Table.render limit columns)

def panel (limit : Nat) (title : String) (lines : List String) : Except Failure String := do
  return ofLines (← Panel.render limit title (String.intercalate "\n" lines))

/-- A text, or a hyphen in its place if it is empty. -/
def orHyphen (s : String) : String := if s = "" then "-" else s

/-- Age of an entry now. -/
def ageOf (now : Int) (e : Entry) : String := Status.age now (e.seconds * 1000000)

/-- All interfaces. -/
def interfaces (limit : Nat) (now : Int) (listed : List Store.Listed) : Printout :=
  if listed.isEmpty then [text limit "\n  [dim]No interfaces.[/]\n"]
  else
    let column (heading : String) (cell : Store.Listed → String) (rightAligned : Bool) : Column :=
      { heading, rightAligned, cells := listed.map cell }
    [blankLine,
     table limit [
      column "Network" (fun l => l.interface.network.name) false,
      column "Device" (fun l => l.interface.device.name) false,
      column "Address" (fun l => l.interface.device.addr.text) false,
      column "Port" (fun l => shown l.interface.listenPort) true,
      column "Peers" (fun l => shown l.interface.peers.length) true,
      column "State" (fun l => Status.markup l.entry) false,
      column "Updated" (fun l => (l.entry.map (ageOf now)).getD "-") false],
     blankLine]

/-- The lines in the panel of an interface. -/
def details (i : Interface) (last : Option Entry) : List String :=
  let message := (last.map (·.message)).getD ""
  ["Network:  " ++ Status.styled "bold" i.network.name ++ " (" ++ i.network.cidr.text ++ ")",
   "Device:   " ++ Status.styled "cyan" i.device.name ++ " " ++ i.device.addr.text,
   "Key:      " ++ Status.styled "dim" i.device.publicKeyText,
   "Endpoint: " ++ orHyphen i.device.endpoint,
   "Port:     " ++ shown i.listenPort,
   "State:    " ++ Status.markup last]
    ++ (if message = "" then [] else ["Message:  " ++ Status.styled "dim" message])

def peers (ds : List Device) : List Column :=
  [{ heading := "Peer", cells := ds.map (·.name) },
   { heading := "Address", cells := ds.map (·.addr.text) },
   { heading := "Endpoint", cells := ds.map fun d => orHyphen d.endpoint },
   { heading := "Public key", cells := ds.map (·.publicKeyText) }]

/-- One interface. -/
def interface (limit : Nat) (i : Interface) (last : Option Entry) : Printout :=
  [blankLine, panel limit i.label (details i last)]
    ++ (if i.peers.isEmpty then [] else [table limit (peers i.peers)]) ++ [blankLine]

end MeshAgent.View
