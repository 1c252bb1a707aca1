import MeshAgent.Bytes
import MeshAgent.DateTime.Basic
import MeshAgent.Number.Binary64

/-!
# Untyped values

What a JSON or YAML text holds before its fields have types. A caller that builds a record itself
may also give bytes and dates; no JSON text holds them. The fields of a record stay in order, and of two fields with
one name the later one counts.
-/
namespace MeshAgent

inductive Datum
  | null
  | bool (value : Bool)
  | int (value : Int)
  | real (value : Binary64)
  | text (value : String)
  | bytes (value : Bytes)
  | time (value : DateTime)
  | list (items : List Datum)
  | record (fields : List (String × Datum))
  /-- A value of a type that no field takes, such as a set. -/
  | foreign
deriving Repr, Inhabited

namespace Datum

/-- The last value with the given name. -/
def find? : List (String × Datum) → String → Option Datum
  | [], _ => none
  | (n, v) :: rest, name =>
    match find? rest name with
    | some w => some w
    | none => if n = name then some v else none

def field? (d : Datum) (name : String) : Option Datum :=
  match d with
  | record fields => find? fields name
  | _ => none

/-- Whether a value is empty in the sense of its type: zero, false, or nothing at all. -/
def isEmpty : Datum → Bool
  | null => true
  | bool b => !b
  | int n => n = 0
  | real x => match x with
    | .finite m _ => m = 0
    | _ => false
  | text s => s = ""
  | bytes b => b.isEmpty
  | time _ => false
  | list ds => ds.isEmpty
  | record fs => fs.isEmpty
  | foreign => false

end Datum

end MeshAgent
