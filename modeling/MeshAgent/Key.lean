import MeshAgent.Base64
import MeshAgent.Error

/-!
# Keys

A key is 32 raw bytes and is written as base64 text.
-/
namespace MeshAgent.Key

def size : Nat := 32

def format (key : Bytes) : String := Base64.encode key

/-- Reads a key back from text. Text of another length than a key is refused too. -/
def parse (text : String) : Except AgentError Bytes :=
  let refuse (reason : Reason) : Except AgentError Bytes :=
    .error { kind := .parse, reason, activity := some .parseKey, entity := some "key" }
  match Base64.decode text with
  | .error _ => refuse (.keyText text)
  | .ok bytes => if bytes.length = size then .ok bytes else refuse (.keyLength bytes.length)

/-- Refuses bytes that are not a key, on behalf of `activity`. -/
def check (bytes : Bytes) (activity : Activity) (entity : String) : Except AgentError Unit :=
  if bytes.length = size then .ok ()
  else .error (.validation (.keyLength bytes.length) activity entity)

theorem check_eq_ok {bytes : Bytes} {activity : Activity} {entity : String} :
    check bytes activity entity = .ok () ↔ bytes.length = size := by
  by_cases h : bytes.length = size <;> simp [check, h]

end MeshAgent.Key
