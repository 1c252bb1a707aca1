import Mathlib.Tactic.Lemma
import MeshAgent.Secret

/-!
# Sealed secrets are opened again

A box opens under the key and the nonce that it was locked with, whatever it holds. What is stored of
a secret is the nonce and the box, so that the key alone opens it.
-/
namespace MeshAgent

namespace SecretBox

lemma unlock?_lock (key nonce secret : Bytes) :
    unlock? key nonce (lock key nonce secret) = some secret := by
  have hstream := Salsa20.le_length_stream key nonce (32 + secret.length)
  have hdrop : secret.length ≤
      ((Salsa20.stream key nonce (32 + secret.length)).drop 32).length := by
    rw [List.length_drop]
    omega
  have hcovered := length_cover hdrop
  rw [lock]
  generalize hc : cover ((Salsa20.stream key nonce (32 + secret.length)).drop 32) secret =
    covered at hcovered ⊢
  have htag : ∀ tag : Bytes, tag.length = 16 →
      ¬ (tag ++ covered).length < tagSize ∧ (tag ++ covered).drop tagSize = covered ∧
        (tag ++ covered).take tagSize = tag := by
    intro tag htag
    refine ⟨?_, ?_, ?_⟩
    · rw [List.length_append, htag, tagSize]
      omega
    · rw [tagSize, ← htag, List.drop_left]
    · rw [tagSize, ← htag, List.take_left]
  obtain ⟨hlen, hbody, hhead⟩ := htag _ (Poly1305.length_tag
    ((Salsa20.stream key nonce (32 + secret.length)).take 32) covered)
  rw [unlock?, if_neg hlen, hbody, hhead]
  simp only [hcovered, if_true]
  rw [← hc, cover_cover hdrop]

end SecretBox

namespace Secret

/-- A secret as it is stored. -/
def blob (key nonce secret : Bytes) : Bytes := nonce ++ SecretBox.lock key nonce secret

lemma encrypt_eq {key : Bytes} (hk : key.length = SecretBox.keySize) (secret nonce : Bytes) :
    encrypt secret key nonce = .ok (blob key nonce secret) := by
  rw [encrypt, checkStoreKey, if_pos hk]
  rfl

lemma decrypt_blob {key nonce : Bytes} (hk : key.length = SecretBox.keySize)
    (hn : nonce.length = SecretBox.nonceSize) (secret : Bytes) :
    decrypt (blob key nonce secret) key = .ok secret := by
  have hlen : ¬ (blob key nonce secret).length < SecretBox.nonceSize := by
    rw [blob, List.length_append, hn]
    omega
  have hhead : (blob key nonce secret).take SecretBox.nonceSize = nonce := by
    rw [blob, ← hn, List.take_left]
  have hbox : (blob key nonce secret).drop SecretBox.nonceSize =
      SecretBox.lock key nonce secret := by
    rw [blob, ← hn, List.drop_left]
  rw [decrypt]
  simp only [if_neg hlen, checkStoreKey, if_pos hk, hhead, hbox, SecretBox.unlock?_lock]
  rfl

end Secret

end MeshAgent
