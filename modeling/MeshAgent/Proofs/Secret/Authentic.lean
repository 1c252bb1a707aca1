import MeshAgent.Proofs.Secret.Opened

/-!
# Only sealed secrets are opened

A box opens only if it is the box that locking makes of its secret, so that opening under a key and
a nonce is the exact partial inverse of locking. A blob begins with its nonce and carries a tag in
front of the covered secret; neither can be changed alone. Whatever is not opened is refused.
-/
namespace MeshAgent

namespace SecretBox

lemma length_lock (key nonce secret : Bytes) :
    (lock key nonce secret).length = secret.length + tagSize := by
  have hstream := Salsa20.le_length_stream key nonce (32 + secret.length)
  have hdrop : secret.length ≤
      ((Salsa20.stream key nonce (32 + secret.length)).drop 32).length := by
    rw [List.length_drop]
    omega
  rw [lock, List.length_append, Poly1305.length_tag, length_cover hdrop, tagSize]
  omega

/-- The tag that covered bytes have under a key and a nonce. -/
def tagOf (key nonce covered : Bytes) : Bytes :=
  Poly1305.tag ((Salsa20.stream key nonce (32 + covered.length)).take 32) covered

/-- What an open box says about its tag and its secret. -/
lemma unlock?_eq_some {key nonce box secret : Bytes} (h : unlock? key nonce box = some secret) :
    tagSize ≤ box.length ∧ tagOf key nonce (box.drop tagSize) = box.take tagSize ∧
      cover ((Salsa20.stream key nonce (32 + (box.drop tagSize).length)).drop 32)
        (box.drop tagSize) = secret := by
  rw [unlock?] at h
  split at h
  · simp at h
  · rename_i hlen
    simp only at h
    split at h
    · rename_i htag
      exact ⟨Nat.le_of_not_lt hlen, htag, Option.some.inj h⟩
    · simp at h

/-- Locking the secret of an open box makes the box again: covering is its own inverse, and the tag
is that of the covered bytes. -/
lemma eq_lock_of_unlock? {key nonce box secret : Bytes}
    (h : unlock? key nonce box = some secret) : box = lock key nonce secret := by
  obtain ⟨-, htag, hsecret⟩ := unlock?_eq_some h
  rw [tagOf] at htag
  generalize hcovered : box.drop tagSize = covered at htag hsecret
  have hstream := Salsa20.le_length_stream key nonce (32 + covered.length)
  have hdrop : covered.length ≤
      ((Salsa20.stream key nonce (32 + covered.length)).drop 32).length := by
    rw [List.length_drop]
    omega
  have hlen : secret.length = covered.length := by rw [← hsecret, length_cover hdrop]
  have hcover : cover ((Salsa20.stream key nonce (32 + covered.length)).drop 32) secret =
      covered := by rw [← hsecret, cover_cover hdrop]
  rw [lock, hlen]
  simp only [hcover, htag]
  rw [← hcovered, List.take_append_drop]

theorem unlock?_eq_some_iff {key nonce box secret : Bytes} :
    unlock? key nonce box = some secret ↔ box = lock key nonce secret :=
  ⟨eq_lock_of_unlock?, fun h => h ▸ unlock?_lock key nonce secret⟩

end SecretBox

namespace Secret

open SecretBox

/-- Bytes of a blob besides the secret: the nonce and the tag. -/
def overhead : Nat := nonceSize + tagSize

/-- Why a blob is refused: it has no whole nonce, or its box does not open. -/
def refusal (blob : Bytes) : AgentError :=
  { kind := .crypto
    reason := if blob.length < nonceSize then .secretTooShort else .secretRefused
    activity := some .decryptSecret }

lemma length_blob (key nonce secret : Bytes) :
    (blob key nonce secret).length = nonce.length + (secret.length + tagSize) := by
  rw [blob, List.length_append, length_lock]

lemma decrypt_of_short {blob key : Bytes} (h : blob.length < nonceSize) :
    decrypt blob key = .error (refusal blob) := by
  simp only [decrypt, refusal, if_pos h]

lemma decrypt_eq {key : Bytes} (hk : key.length = keySize) {blob : Bytes}
    (h : nonceSize ≤ blob.length) :
    decrypt blob key =
      match unlock? key (blob.take nonceSize) (blob.drop nonceSize) with
      | some secret => .ok secret
      | none => .error (refusal blob) := by
  have hlong : ¬ blob.length < nonceSize := Nat.not_lt.mpr h
  simp only [decrypt, refusal, if_neg hlong, checkStoreKey, if_pos hk]
  rfl

/-- A blob opens to a secret if and only if sealing the secret with its nonce makes the blob. -/
theorem decrypt_eq_ok_iff {key : Bytes} (hk : key.length = keySize) {blob secret : Bytes} :
    decrypt blob key = .ok secret ↔ blob = Secret.blob key (blob.take nonceSize) secret := by
  by_cases hshort : blob.length < nonceSize
  · rw [decrypt_of_short hshort]
    refine ⟨fun h => by simp at h, fun h => ?_⟩
    -- a sealed secret is longer than the nonce that was taken from it
    have hlen := congrArg List.length h
    rw [length_blob, List.length_take, tagSize] at hlen
    omega
  · rw [decrypt_eq hk (Nat.le_of_not_lt hshort), Secret.blob]
    constructor
    · intro h
      cases hopen : unlock? key (blob.take nonceSize) (blob.drop nonceSize) with
      | none => simp [hopen] at h
      | some s =>
        obtain rfl : s = secret := by simpa [hopen] using h
        rw [← eq_lock_of_unlock? hopen, List.take_append_drop]
    · intro h
      have hbox : blob.drop nonceSize = lock key (blob.take nonceSize) secret :=
        List.append_cancel_left ((List.take_append_drop _ _).trans h)
      rw [unlock?_eq_some_iff.mpr hbox]

/-- Opening a blob gives a secret, or the refusal of the blob. -/
lemma decrypt_of_not_ok {key : Bytes} (hk : key.length = keySize) {blob : Bytes}
    (h : ∀ secret, decrypt blob key ≠ .ok secret) : decrypt blob key = .error (refusal blob) := by
  by_cases hshort : blob.length < nonceSize
  · exact decrypt_of_short hshort
  · rw [decrypt_eq hk (Nat.le_of_not_lt hshort)] at h ⊢
    cases hopen : unlock? key (blob.take nonceSize) (blob.drop nonceSize) with
    | none => rfl
    | some s =>
      rw [hopen] at h
      exact absurd rfl (h s)

lemma length_of_decrypt {key : Bytes} (hk : key.length = keySize) {blob secret : Bytes}
    (h : decrypt blob key = .ok secret) : blob.length = secret.length + overhead := by
  have hlen := congrArg List.length ((decrypt_eq_ok_iff hk).mp h)
  rw [length_blob, List.length_take, tagSize] at hlen
  rw [overhead, nonceSize, tagSize]
  rw [nonceSize] at hlen
  omega

/-- Nonce and covered bytes decide the tag of a blob that opens. -/
lemma eq_of_decrypt {key : Bytes} (hk : key.length = keySize) {b b' s s' : Bytes}
    (h : decrypt b key = .ok s) (h' : decrypt b' key = .ok s')
    (hnonce : b'.take nonceSize = b.take nonceSize)
    (hcovered : b'.drop overhead = b.drop overhead) : b' = b := by
  have hopen : ∀ {c t : Bytes}, decrypt c key = .ok t →
      c = c.take nonceSize ++ (tagOf key (c.take nonceSize) (c.drop overhead) ++
        c.drop overhead) := by
    intro c t hc
    have hbox := (decrypt_eq_ok_iff hk).mp hc
    have hdrop : c.drop nonceSize = lock key (c.take nonceSize) t :=
      List.append_cancel_left ((List.take_append_drop _ _).trans hbox)
    obtain ⟨-, htag, -⟩ := unlock?_eq_some (unlock?_eq_some_iff.mpr hdrop)
    rw [List.drop_drop] at htag
    rw [overhead, htag, ← List.drop_drop, List.take_append_drop, List.take_append_drop]
  rw [hopen h, hopen h', hnonce, hcovered]

/-- Under the key, opening is the exact partial inverse of sealing. -/
structure Inverts (key : Bytes) : Prop where
  /-- A blob opens to a secret if and only if sealing the secret with the nonce that the blob begins
  with makes the blob. -/
  opens_iff : ∀ blob secret,
    decrypt blob key = .ok secret ↔ encrypt secret key (blob.take nonceSize) = .ok blob
  /-- Every other blob is refused. -/
  refused : ∀ blob, (∀ secret, encrypt secret key (blob.take nonceSize) ≠ .ok blob) →
    decrypt blob key = .error (refusal blob)
  /-- A blob with no room for a nonce and a tag is refused. -/
  short : ∀ blob, blob.length < overhead → decrypt blob key = .error (refusal blob)
  /-- So is a blob that differs from a sealed secret in nothing but the tag. -/
  tampered : ∀ secret nonce blob blob', nonce.length = nonceSize →
    encrypt secret key nonce = .ok blob → blob'.take nonceSize = nonce →
    blob'.drop overhead = blob.drop overhead → blob' ≠ blob →
    decrypt blob' key = .error (refusal blob')
  /-- What has been sealed is opened again. -/
  opened : ∀ secret nonce, nonce.length = nonceSize →
    ∃ blob, encrypt secret key nonce = .ok blob ∧ blob.length = secret.length + overhead ∧
      decrypt blob key = .ok secret
  /-- Blobs with the same nonce that open to the same secret are the same. -/
  injective : ∀ blob blob' secret, blob'.take nonceSize = blob.take nonceSize →
    decrypt blob key = .ok secret → decrypt blob' key = .ok secret → blob' = blob

theorem decrypt_inverts_encrypt {key : Bytes} (hk : key.length = keySize) : Inverts key := by
  have hiff : ∀ blob secret,
      decrypt blob key = .ok secret ↔ encrypt secret key (blob.take nonceSize) = .ok blob := by
    intro blob secret
    rw [decrypt_eq_ok_iff hk, encrypt_eq hk, Except.ok.injEq, eq_comm]
  constructor
  case opens_iff => exact hiff
  case refused =>
    intro blob h
    exact decrypt_of_not_ok hk fun secret hopen => h secret ((hiff blob secret).mp hopen)
  case short =>
    intro blob hshort
    refine decrypt_of_not_ok hk fun secret hopen => ?_
    have hlen := length_of_decrypt hk hopen
    omega
  case tampered =>
    rintro secret nonce b b' hnonce hb hsame hcovered hne
    rw [encrypt_eq hk, Except.ok.injEq] at hb
    have hopen : decrypt b key = .ok secret := hb ▸ decrypt_blob hk hnonce secret
    have htake : b.take nonceSize = nonce := by rw [← hb, blob, ← hnonce, List.take_left]
    refine decrypt_of_not_ok hk fun secret' hopen' => hne ?_
    exact eq_of_decrypt hk hopen hopen' (hsame.trans htake.symm) hcovered
  case opened =>
    intro secret nonce hnonce
    have hopen := decrypt_blob hk hnonce secret
    exact ⟨blob key nonce secret, encrypt_eq hk secret nonce, length_of_decrypt hk hopen, hopen⟩
  case injective =>
    intro b b' secret hnonce hb hb'
    rw [(decrypt_eq_ok_iff hk).mp hb, (decrypt_eq_ok_iff hk).mp hb', hnonce]

/-- Under a key of zeros, a secret of a hundred bytes takes a hundred and forty. It is opened again, and
refused under any other tag; so are 39 bytes, which are too few for a nonce and a tag. -/
theorem decrypt_inverts_encrypt_of_zeros :
    let key : Bytes := List.replicate keySize 0
    let nonce : Bytes := List.replicate nonceSize 7
    let secret : Bytes := List.replicate 100 1
    let refused : AgentError :=
      { kind := .crypto, reason := .secretRefused, activity := some .decryptSecret }
    key.length = keySize ∧ decrypt (List.replicate 39 0) key = .error refused ∧
      ∃ blob, encrypt secret key nonce = .ok blob ∧ blob.length = 140 ∧
        decrypt blob key = .ok secret ∧
        ∀ tag : Bytes, tag.length = tagSize → nonce ++ tag ++ blob.drop overhead ≠ blob →
          decrypt (nonce ++ tag ++ blob.drop overhead) key = .error refused := by
  intro key nonce secret refused
  have hinverts : Inverts key := decrypt_inverts_encrypt rfl
  obtain ⟨blob, hblob, hlength, hopened⟩ := hinverts.opened secret nonce rfl
  refine ⟨rfl, hinverts.short _ (by decide), blob, hblob, hlength, hopened, fun tag htag hne => ?_⟩
  have hnonce : (nonce ++ tag ++ blob.drop overhead).take nonceSize = nonce := by
    rw [List.append_assoc, List.take_left' (by decide)]
  have hcovered : (nonce ++ tag ++ blob.drop overhead).drop overhead = blob.drop overhead :=
    List.drop_left' (by rw [List.length_append, htag]; decide)
  have hlong : ¬ (nonce ++ tag ++ blob.drop overhead).length < nonceSize := by
    rw [List.append_assoc, List.length_append]
    exact Nat.not_lt.mpr (Nat.le_add_right _ _)
  rw [hinverts.tampered secret nonce blob _ rfl hblob hnonce hcovered hne, refusal, if_neg hlong]

end Secret

end MeshAgent
