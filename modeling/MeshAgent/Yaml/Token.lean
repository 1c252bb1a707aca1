/-!
# YAML tokens

The units a YAML text is made of. Indentation appears as explicit starts and ends of blocks.
-/
namespace MeshAgent.Yaml

inductive Token
  /-- A version directive with its major number. -/
  | version (major : Nat)
  /-- A directive that gives a tag handle its meaning. -/
  | tagHandle (handle meaning : String)
  | otherDirective
  | documentStart
  | documentEnd
  | blockSequenceStart
  | blockMappingStart
  | blockEnd
  | flowSequenceStart
  | flowSequenceEnd
  | flowMappingStart
  | flowMappingEnd
  | blockEntry
  | flowEntry
  | key
  | value
  | alias_ (name : String)
  | anchor (name : String)
  /-- A tag; without a handle it is complete. -/
  | tag (handle : Option String) (suffix : String)
  | scalar (text : String) (plain : Bool)
deriving DecidableEq, Repr

end MeshAgent.Yaml
