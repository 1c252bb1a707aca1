import MeshAgent.Endpoint
import MeshAgent.Wire.Join

/-!
# Refreshing a registration
-/
namespace MeshAgent

/-- Request to update this device's registration. What is empty stays as it is. -/
structure RefreshRequest where
  name : String := ""
  key : Bytes := []
  endpoint : String := ""
deriving DecidableEq, Repr

namespace RefreshRequest

/-- Checks the fields that are given. A tunnel endpoint needs a decimal port. -/
def check (r : RefreshRequest) : Except Failure Unit := do
  if r.key ≠ [] then orFail (Key.check r.key .validateRefresh "key")
  if r.endpoint ≠ "" then
    match Endpoint.split r.endpoint with
    | .ok _ => pure ()
    | .error (.agent e) =>
      let outer : AgentError :=
        .validation (.requestEndpoint e.reason) .validateRefresh "endpoint"
      throw (.agent (outer.raisedFrom e))
    | .error other => throw other

/-- A checked request; a field that is not given stays empty. -/
def make (name : Option String) (key : Option Bytes) (endpoint : Option String) :
    Except Failure RefreshRequest := do
  let r : RefreshRequest := ⟨name.getD "", key.getD [], endpoint.getD ""⟩
  r.check
  return r

end RefreshRequest

instance : Message RefreshRequest where
  ofFields _ fs :=
    RefreshRequest.mk
      <$> Field.optional "name" "name" "" Field.text fs
      <*> Field.optional "key" "key" [] Field.base64 fs
      <*> Field.optional "endpoint" "endpoint" "" Field.text fs
  toFields r :=
    (if r.name = "" then [] else [("name", .text r.name)])
      ++ (if r.key = [] then [] else [("key", Bytes.toDatum r.key)])
      ++ (if r.endpoint = "" then [] else [("endpoint", .text r.endpoint)])

/-- A checked request made of values that have no types yet. Empty values count as not given. -/
def RefreshRequest.ofArguments (arguments : Field.Fields) : Except Failure RefreshRequest := do
  let given := arguments.filter fun (_, d) => !d.isEmpty
  let r : RefreshRequest ← (Message.ofFields .caller given).toExcept
  r.check
  return r

end MeshAgent
