import MeshAgent.CommandLine.Arguments

/-!
# Commands

Two commands show what the store holds; help, version and usage problems need no store at all.
-/
namespace MeshAgent.CommandLine

def version : String := "0.1.0"

/-- What somebody can be told about the use of. -/
inductive Topic
  | program
  | status
  | show_
deriving DecidableEq, Repr

namespace Topic

/-- How a topic of a program is called on the command line. -/
def path (name : String) : Topic → String
  | program => name
  | status => name ++ " status"
  | show_ => name ++ " show"

def usage (name : String) (t : Topic) : String :=
  "Usage: " ++ t.path name ++ " " ++ match t with
    | program => "[OPTIONS] COMMAND [ARGS]..."
    | status => "[OPTIONS]"
    | show_ => "[OPTIONS] DEVICE NETWORK"

def summary : Topic → String
  | program => "Meshgarden mesh VPN agent."
  | status => "Show every joined network and its reconciliation state."
  | show_ => "Show one interface and its peers."

def options : Topic → List OptionSpec
  | program => [{ name := "--version" }, { name := "--verbose", letter := some 'v' },
      { name := "--help" }]
  | status => [{ name := "--home", takesValue := true }, { name := "--help" }]
  | show_ => [{ name := "--home", takesValue := true }, { name := "--help" }]

/-- The lines of a help text after its summary. -/
def details : Topic → List String
  | program =>
    ["Options:", "  --version      Show the version and exit.",
     "  -v, --verbose  Enable debug logging.", "  --help         Show this message and exit.", "",
     "Commands:", "  show    Show one interface and its peers.",
     "  status  Show every joined network and its reconciliation state."]
  | status =>
    ["Options:", "  --home PATH  Agent home directory.",
     "  --help       Show this message and exit."]
  | show_ =>
    ["Options:", "  --home PATH  Agent home directory.",
     "  --help       Show this message and exit."]

def help (name : String) (t : Topic) : String :=
  String.join (([t.usage name, "", "  " ++ t.summary, ""] ++ t.details).map (· ++ "\n"))

/-- What is said about a problem with the use of a topic. -/
def complaint (name : String) (t : Topic) (p : UsageProblem) : String :=
  let usage := t.usage name ++ "\nTry '" ++ t.path name ++ " --help' for help.\n\n"
  (if p.tellsUsage then usage else "") ++ "Error: " ++ p.message ++ "\n"

end Topic

/-- A command that looks at the store. The home is not given if it is the default one. -/
inductive Command
  | status (home : Option String)
  | show_ (device network : String) (home : Option String)
deriving DecidableEq, Repr

/-- What is asked for on the command line. -/
inductive Request
  | command (verbose : Bool) (command : Command)
  | help (topic : Topic)
  | version
  /-- No arguments at all, which is answered like a call for help that went wrong. -/
  | nothing
  | misuse (topic : Topic) (problem : UsageProblem)
deriving DecidableEq, Repr

namespace Request

/-- Reads what follows the name of a command. -/
def ofCommand (topic : Topic) (arguments : List String)
    (command : Arguments → Except UsageProblem Command) (verbose : Bool) : Request :=
  match Arguments.read topic.options true arguments with
  | .error p => misuse topic p
  | .ok a =>
    if a.gives "--help" then help topic
    else
      match command a with
      | .ok c => Request.command verbose c
      | .error p => misuse topic p

def ofStatus (a : Arguments) : Except UsageProblem Command :=
  match a.others with
  | [] => .ok (.status (a.value? "--home"))
  | extra => .error (.extraArguments extra)

def ofShow (a : Arguments) : Except UsageProblem Command :=
  match a.others with
  | [] => .error (.argumentMissing "DEVICE")
  | [_] => .error (.argumentMissing "NETWORK")
  | [device, network] => .ok (.show_ device network (a.value? "--home"))
  | _ :: _ :: extra => .error (.extraArguments extra)

/-- The answer to options that need no command. Of help and version the first one counts. -/
def ofOptions? (a : Arguments) : Option Request :=
  (a.options.map (·.1)).findSome? fun o =>
    if o = "--help" then some (help .program) else if o = "--version" then some version else none

/-- The answer to a word that is no command. It is read as an option first if it looks like one,
which happens after a double hyphen only. -/
def ofUnknown (name : String) (rest : List String) : Request :=
  let refusal := misuse .program (.noSuchCommand name (Text.mostSimilar name ["show", "status"]))
  if name.toList.head? = some '-' then
    match Arguments.read Topic.program.options false (name :: rest) with
    | .error p => misuse .program p
    | .ok a => (ofOptions? a).getD refusal
  else refusal

/-- Reads the arguments of the program. -/
def ofArguments (arguments : List String) : Request :=
  match Arguments.read Topic.program.options false arguments with
  | .error p => misuse .program p
  | .ok a =>
    if arguments.isEmpty then nothing
    else
      match ofOptions? a with
      | some r => r
      | none =>
        match a.others with
        | [] => misuse .program .commandMissing
        | "status" :: rest => ofCommand .status rest ofStatus (a.gives "--verbose")
        | "show" :: rest => ofCommand .show_ rest ofShow (a.gives "--verbose")
        | name :: rest => ofUnknown name rest

end Request

end MeshAgent.CommandLine
