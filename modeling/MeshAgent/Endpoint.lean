import MeshAgent.Failure
import MeshAgent.Text.Split

/-!
# Endpoints

An endpoint is `host:port` with a decimal port. A host that holds colons stands in square brackets;
no other bracket is allowed.
-/
namespace MeshAgent

structure Endpoint where
  host : String
  port : Nat
deriving DecidableEq, Repr

namespace Endpoint

/-- Host and port text, before either is checked on its own. -/
def cut (cs : List Char) : Except EndpointProblem (List Char × List Char) :=
  if cs.head? = some '[' then
    match Text.cutFirst ']' cs.tail with
    | (_, none) => .error .missingBracket
    | (host, some rest) =>
      match rest with
      | ':' :: port => .ok (host, port)
      | _ => .error .missingPort
  else
    match Text.cutLast ':' cs with
    | none => .error .missingPort
    | some (host, port) => if host.contains ':' then .error .tooManyColons else .ok (host, port)

/-- The value of a port text. Digits are counted before they are read. -/
def readPort (cs : List Char) : Except EndpointProblem (Except Nat Nat) :=
  if Decimal.isNumeral cs then
    if Decimal.digitLimit < cs.length then .ok (.error cs.length)
    else
      let port := Decimal.value cs
      if 65535 < port then .error (.portNumber port) else .ok (.ok port)
  else .error (.portText (String.ofList cs))

/-- Splits an endpoint, or says why it is none. -/
def split (text : String) : Except Failure Endpoint :=
  let refuse (p : EndpointProblem) : Except Failure Endpoint :=
    .error (.agent (.validation (.endpoint p text) .parseEndpoint "endpoint"))
  match cut text.toList with
  | .error p => refuse p
  | .ok (host, port) =>
    if host.contains '[' || host.contains ']' then refuse .unexpectedBracket
    else
      match readPort port with
      | .error p => refuse p
      | .ok (.error count) => .error (.tooManyDigits count)
      | .ok (.ok n) => .ok ⟨String.ofList host, n⟩

end Endpoint

end MeshAgent
