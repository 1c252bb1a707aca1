import MeshAgent.Crypto.Curve25519
import MeshAgent.Crypto.SecretBox
import MeshAgent.Entropy
import MeshAgent.Key

/-!
# Secrets at rest

Private keys and device tokens are stored sealed under the store key: a nonce and a secret box.
-/
namespace MeshAgent

namespace Key

/-- The public key of a private key. -/
def derivePublic (privateKey : Bytes) : Except AgentError Bytes := do
  check privateKey .derivePublicKey "key"
  return Curve25519.publicKey privateKey

/-- A fresh private key, written as the scalar that is made of it. -/
def generate (e : Entropy) : Bytes × Entropy :=
  let (bytes, e) := e.draw size
  (Bytes.ofNat size (Curve25519.scalarOf bytes), e)

end Key

namespace Secret

/-- A fresh store key. -/
def generateKey (e : Entropy) : Bytes × Entropy := e.draw SecretBox.keySize

def checkStoreKey (key : Bytes) (activity : Activity) : Except AgentError Unit :=
  if key.length = SecretBox.keySize then .ok ()
  else
    .error { kind := .crypto, reason := .storeKeyLength key.length, activity := some activity,
             entity := some "store key" }

/-- The stored form of a secret. Every sealing takes a nonce of its own. -/
def encrypt (secret key nonce : Bytes) : Except AgentError Bytes := do
  checkStoreKey key .encryptSecret
  return nonce ++ SecretBox.lock key nonce secret

/-- Opens a stored secret. Its length is looked at before the key. -/
def decrypt (blob key : Bytes) : Except AgentError Bytes := do
  let refuse (reason : Reason) : Except AgentError Bytes :=
    .error { kind := .crypto, reason, activity := some .decryptSecret }
  if blob.length < SecretBox.nonceSize then refuse .secretTooShort
  else
    checkStoreKey key .decryptSecret
    match SecretBox.unlock? key (blob.take SecretBox.nonceSize) (blob.drop SecretBox.nonceSize) with
    | some secret => .ok secret
    | none => refuse .secretRefused

end Secret

end MeshAgent
