import MeshAgent.Bytes
import MeshAgent.Database.Tables
import MeshAgent.Home.Path

/-!
# Files

The part of a file system that an agent sees: directories, plain files and databases, each at a
place. Paths are looked up from a working directory, name by name, as the system does it, so that an
error says what really stands in the way.
-/
namespace MeshAgent

/-- The names that lead from the root to a file or directory, without any dots. -/
abbrev Place := List String

/-- What stands at a place. -/
inductive FileNode
  | directory
  | plain (content : Bytes)
  | database (tables : Tables)
deriving DecidableEq, Repr

structure Files where
  nodes : List (Place × FileNode) := []
  workingDirectory : Place := []
deriving DecidableEq, Repr

namespace Files

/-- What stands at a place. The root is always there. -/
def find? (f : Files) (p : Place) : Option FileNode :=
  if p = [] then some .directory else f.nodes.lookup p

def put (f : Files) (p : Place) (n : FileNode) : Files := { f with nodes := (p, n) :: f.nodes }

@[simp] theorem find?_put_self {f : Files} {p : Place} {n : FileNode} (h : p ≠ []) :
    (f.put p n).find? p = some n := by
  simp [find?, put, h]

@[simp] theorem find?_put_of_ne {f : Files} {p q : Place} {n : FileNode} (h : q ≠ p) :
    (f.put p n).find? q = f.find? q := by
  simp [find?, put, List.lookup_cons, beq_eq_false_iff_ne.2 h]

/-- Walks along names. Everything but the last one has to be a directory. -/
def walk (f : Files) (here : Place) : List String → Except OsProblem Place
  | [] => .ok here
  | name :: rest =>
    match f.find? here with
    | none => .error .noEntry
    | some .directory =>
      f.walk (if name = ".." then here.dropLast else here ++ [name]) rest
    | some _ => .error .notDirectory

/-- The place that a path leads to. There need not be anything at it. -/
def place (f : Files) (p : Path) : Except OsProblem Place :=
  f.walk (if p.root = "" then f.workingDirectory else []) p.names

/-- What a path leads to. Nothing has a null character in its name. -/
def node? (f : Files) (p : Path) : Except OsProblem FileNode :=
  if p.hasNull then .error .noEntry
  else do
    match f.find? (← f.place p) with
    | some n => .ok n
    | none => .error .noEntry

def isPresent (f : Files) (p : Path) : Bool := (f.node? p).toOption.isSome

def isDirectory (f : Files) (p : Path) : Bool := (f.node? p).toOption = some .directory

/-- A failed look at a path, as an error about it. -/
def explain {α : Type} (p : Path) : Except OsProblem α → Except Failure α
  | .ok a => .ok a
  | .error problem => .error (.system ⟨problem, p.text⟩)

/-- The place that something is to be put at. -/
def target (f : Files) (p : Path) : Except Failure Place :=
  if p.hasNull then .error .nullInPath else explain p (f.place p)

/-- Bytes on a page of a database, and pages that its tables and indexes take while they are small. -/
def databaseBytes : Nat := 4096 * 10

def read (f : Files) (p : Path) : Except Failure Bytes :=
  if p.hasNull then .error .nullInPath
  else do
    match ← explain p (f.node? p) with
    | .plain content => .ok content
    | .database _ => .ok (List.replicate databaseBytes 0)
    | .directory => .error (.system ⟨.isDirectory, p.text⟩)

/-- Puts a plain file into its directory, which has to be there. -/
def putPlain (f : Files) (p : Path) (place : Place) (content : Bytes) : Except Failure Files :=
  match f.find? place.dropLast with
  | some .directory => .ok (f.put place (.plain content))
  | some _ => .error (.system ⟨.notDirectory, p.text⟩)
  | none => .error (.system ⟨.noEntry, p.text⟩)

/-- Writes a plain file, also over one that is there. -/
def write (f : Files) (p : Path) (content : Bytes) : Except Failure Files := do
  let place ← f.target p
  match f.find? place with
  | some .directory => .error (.system ⟨.isDirectory, p.text⟩)
  | _ => f.putPlain p place content

/-- Makes a plain file where nothing is yet. -/
def create (f : Files) (p : Path) (content : Bytes) : Except Failure Files := do
  let place ← f.target p
  match f.find? place with
  | some _ => .error (.system ⟨.alreadyExists, p.text⟩)
  | none => f.putPlain p place content

/-- Makes one directory. One that is there is left alone. -/
def makeOne (f : Files) (p : Path) : Except Failure Files := do
  let place ← f.target p
  match f.find? place, f.find? place.dropLast with
  | some .directory, _ => .ok f
  | some _, _ => .error (.system ⟨.alreadyExists, p.text⟩)
  | none, some .directory => .ok (f.put place .directory)
  | none, some _ => .error (.system ⟨.notDirectory, p.text⟩)
  | none, none => .error (.system ⟨.noEntry, p.text⟩)

/-- Makes a directory of the first `n` names of a path, and those it lies in. -/
def makeUpTo (f : Files) (p : Path) : Nat → Except Failure Files
  | 0 => .ok f
  | n + 1 =>
    let part : Path := ⟨p.root, p.names.take (n + 1)⟩
    match f.makeOne part with
    | .error (.system ⟨.noEntry, _⟩) => do
      let f ← f.makeUpTo p n
      f.makeOne part
    | made => made

/-- Makes a directory and those it lies in, as far as they are missing. -/
def makeDirectory (f : Files) (p : Path) : Except Failure Files := f.makeUpTo p p.names.length

/-- The files in a directory and below, by their paths from there, in order. -/
def below (f : Files) (p : Path) : List String :=
  match f.place p with
  | .error _ => []
  | .ok here =>
    let places := (f.nodes.map (·.1)).eraseDups.filter fun q =>
      here.isPrefixOf q && here ≠ q && !(f.find? q = some .directory)
    (places.map fun q => String.intercalate "/" (q.drop here.length)).mergeSort fun a b => a ≤ b

end Files

end MeshAgent
