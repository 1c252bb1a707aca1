import MeshAgent.Home.Path
import MeshAgent.Yaml.Value

/-!
# Where a command runs

What a command is told about its surroundings, besides its arguments.
-/
namespace MeshAgent.CommandLine

structure Setting where
  /-- The name that the program is called by. -/
  programName : String
  /-- The home directory of the user. -/
  userHome : Path
  /-- The agent home that is used when none is named. -/
  agentHome : String := defaultHome
  /-- Cells in a line of the terminal. -/
  columns : Nat := 80
  /-- Reads the configuration of a home. -/
  reader : Yaml.Reader := Yaml.load

/-- The agent home that is meant. -/
def Setting.home (s : Setting) (named : Option String) : Except Failure Path :=
  MeshAgent.agentHome s.userHome (some (named.getD s.agentHome))

end MeshAgent.CommandLine
