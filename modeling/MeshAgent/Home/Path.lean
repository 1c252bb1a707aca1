import MeshAgent.Failure
import MeshAgent.Text.Split

/-!
# Paths

A path is a root and a list of names. Empty names and single dots say nothing and are dropped;
double dots are kept, since what they mean is up to the file system.
-/
namespace MeshAgent

structure Path where
  /-- Empty for a relative path. Two slashes in front are a root of their own. -/
  root : String
  names : List String
deriving DecidableEq, Repr

namespace Path

def ofText (text : String) : Path :=
  let cs := text.toList
  let slashes := (cs.takeWhile (· = '/')).length
  let root := if slashes = 0 then "" else if slashes = 2 then "//" else "/"
  let names := ((Text.pieces '/' cs).map String.ofList).filter fun n => n ≠ "" ∧ n ≠ "."
  ⟨root, names⟩

def text (p : Path) : String :=
  if p.root = "" ∧ p.names = [] then "." else p.root ++ String.intercalate "/" p.names

/-- The path `q` as seen from `p`. -/
def append (p q : Path) : Path := if q.root = "" then ⟨p.root, p.names ++ q.names⟩ else q

instance : HDiv Path String Path := ⟨fun p s => p.append (ofText s)⟩

/-- Whether a null character stands in a path. The system takes no such path. -/
def hasNull (p : Path) : Bool := p.names.any fun name => name.toList.contains '\x00'

/-- The directory that holds a path. -/
def parent (p : Path) : Path := ⟨p.root, p.names.dropLast⟩

/-- Replaces a leading tilde by the user's home directory. Other users' homes are not known. -/
def expandUser (p userHome : Path) : Except Failure Path :=
  match p.root, p.names with
  | "", "~" :: rest => .ok ⟨userHome.root, userHome.names ++ rest⟩
  | "", name :: _ => if name.toList.head? = some '~' then .error .homeUnknown else .ok p
  | _, _ => .ok p

end Path

/-- Agent home that is used when none is named. -/
def defaultHome : String := "~/.meshgarden"

/-- The agent home directory. -/
def agentHome (userHome : Path) (home : Option String) : Except Failure Path :=
  (Path.ofText (home.getD defaultHome)).expandUser userHome

end MeshAgent
