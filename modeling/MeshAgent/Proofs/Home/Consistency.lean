import MeshAgent.Proofs.Home.Actions

/-!
# Consistent tables

The tables of every reachable site are consistent: identities and public keys belong to one interface
each, what refers to an interface finds it, keys are written in one way only, and no id is ahead of the
counter that it was taken from. That keys are compared as texts is enough, since the text of a key
determines the key.
-/
namespace MeshAgent

/-- The text is what the store writes for a key. -/
def Key.IsFormatted (text : String) : Prop :=
  ∃ key : Bytes, key.length = Key.size ∧ Key.format key = text

lemma Key.decode_format (key : Bytes) : Base64.decode (Key.format key) = .ok key :=
  Base64.decode_encode key

namespace Tables

/-- What interfaces, peers and entries have to do with each other. -/
structure Consistent (t : Tables) : Prop where
  deviceIds : t.interfaces.Pairwise fun r s => r.deviceId ≠ s.deviceId
  names : t.interfaces.Pairwise fun r s => (r.netName, r.deviceName) ≠ (s.netName, s.deviceName)
  /-- Keys are told apart as bytes. -/
  keys : t.interfaces.Pairwise fun r s => Base64.decode r.publicKey ≠ Base64.decode s.publicKey
  pos : ∀ r ∈ t.interfaces, 0 < r.id
  peers_linked : ∀ p ∈ t.peers, ∃ r ∈ t.interfaces, r.id = p.interfaceId
  log_linked : ∀ e ∈ t.log, ∃ r ∈ t.interfaces, r.id = e.interfaceId
  keys_formatted : ∀ r ∈ t.interfaces, Key.IsFormatted r.publicKey
  peerKeys_formatted : ∀ p ∈ t.peers, Key.IsFormatted p.publicKey
  interfaces_le_last : ∀ r ∈ t.interfaces, r.id ≤ t.lastInterfaceId
  log_le_last : ∀ e ∈ t.log, e.id ≤ t.lastLogId

variable {key : Bytes} {t : Tables}

lemma isFormatted_of_stores {a : Interface} {peers : List PeerColumns} {r : InterfaceRow}
    (h : r.Stores key a peers) :
    Key.IsFormatted r.publicKey ∧ ∀ p ∈ peers, Key.IsFormatted p.publicKey := by
  refine ⟨⟨a.device.publicKey, h.publicKey, ?_⟩, fun p hp => ?_⟩
  · obtain ⟨n₁, n₂, -, -, hcols⟩ := h.columns
    have htext : r.toInterfaceColumns.publicKey = Key.format a.device.publicKey := by rw [hcols]; rfl
    exact htext.symm
  · rw [h.peers] at hp
    obtain ⟨d, hd, rfl⟩ := List.mem_map.mp hp
    exact ⟨d.publicKey, h.peerKeys d hd, rfl⟩

/-- Two rows of sound tables have nothing in common that identifies an interface. -/
lemma Sound.pairwise_distinct (ht : t.Sound key) (i : Identity) :
    t.interfaces.Pairwise fun r s => i.shared r.toInterfaceColumns s.toInterfaceColumns = false :=
  ht.ordered.imp_of_mem fun hr hs hlt => ht.distinct _ hr _ hs (Int.ne_of_lt hlt) i

lemma Sound.isFormatted_publicKey (ht : t.Sound key) {r : InterfaceRow} (hr : r ∈ t.interfaces) :
    Key.IsFormatted r.publicKey := by
  obtain ⟨a, -, hstores⟩ := ht.exists_holds hr
  exact (isFormatted_of_stores hstores).1

/-- Texts that differ are texts of keys that differ. -/
lemma Sound.pairwise_keys (ht : t.Sound key) :
    t.interfaces.Pairwise fun r s => Base64.decode r.publicKey ≠ Base64.decode s.publicKey := by
  refine (ht.pairwise_distinct .publicKey).imp_of_mem fun {r s} hr hs hshared heq => ?_
  obtain ⟨k, -, hk⟩ := ht.isFormatted_publicKey hr
  obtain ⟨l, -, hl⟩ := ht.isFormatted_publicKey hs
  rw [← hk, ← hl, Key.decode_format, Key.decode_format, Except.ok.injEq] at heq
  have hsame : r.publicKey = s.publicKey := by rw [← hk, ← hl, heq]
  simp [Identity.shared, hsame] at hshared

lemma Sound.isFormatted_peerKey (ht : t.Sound key) (hl : t.Linked) {p : PeerRow} (hp : p ∈ t.peers) :
    Key.IsFormatted p.publicKey := by
  obtain ⟨r, hr, hid⟩ := hasInterface_iff.mp (hl.peers p hp)
  obtain ⟨a, -, hstores⟩ := ht.exists_holds hr
  have hmem : p.toPeerColumns ∈ t.peerColumns a.id := by
    rw [peerColumns, peersOf]
    refine List.mem_map_of_mem (List.mem_filter.mpr ⟨hp, ?_⟩)
    simp [← hid, hstores.id]
  exact (isFormatted_of_stores hstores).2 _ hmem

/-- Sound tables whose rows refer to stored interfaces are consistent. -/
theorem Sound.consistent (ht : t.Sound key) (hl : t.Linked) : t.Consistent where
  deviceIds := (ht.pairwise_distinct .deviceId).imp fun hshared => by
    simpa [Identity.shared] using hshared
  names := (ht.pairwise_distinct .networkAndDeviceName).imp fun hshared => by
    simpa [Identity.shared] using hshared
  keys := ht.pairwise_keys
  pos := ht.pos
  peers_linked p hp := hasInterface_iff.mp (hl.peers p hp)
  log_linked e he := hasInterface_iff.mp (hl.log e he)
  keys_formatted _ hr := ht.isFormatted_publicKey hr
  peerKeys_formatted _ hp := ht.isFormatted_peerKey hl hp
  interfaces_le_last := ht.le_last
  log_le_last := ht.log_le

end Tables

namespace Site

variable {w : Site}

/-- However a store has been used, what is durable is consistent. -/
theorem consistent_of_reachable (hw : Reachable w) : w.tables.Consistent := by
  obtain ⟨es, hevolves⟩ := hw.evolves
  have hlinked := Tables.linked_empty.evolves (Tables.sound_empty w.mounted.store.key) hevolves
  exact hw.spec.2.consistent hlinked

/-- An interface with a peer, another one under an id that was not given before, and one that is
refused since its key is taken. -/
theorem consistent_of_reachable_refused :
    let key : Bytes := List.replicate Key.size 0
    let addr : Address := .v4 ⟨0, Address.fullPrefix4⟩
    let device : Device := { id := "a", name := "a", addr, publicKey := key }
    let other : Device := { id := "b", name := "b", addr, publicKey := List.replicate Key.size 1 }
    let i : Interface := { apiUrl := "", network := ⟨"", "", addr⟩, device, key, deviceToken := [] }
    let as : List Action :=
      [.event (.call {} (.join none key none { network := i.network, device, peers := [other] } "")),
        .event (.call {} (.ensure { i with id := 7, device := other })),
        .event (.call {} (.ensure { i with device := { other with id := "c", name := "c" } }))]
    (blank.carryOut as).tables.interfaces.map (·.id) = [1, 7] ∧
      (blank.carryOut as).tables.peers.map (·.interfaceId) = [1] ∧
      (blank.carryOut as).tables.log.map (·.interfaceId) = [1] ∧
      (blank.carryOut as).tables.Consistent := by
  intro key addr device other i as
  have hreachable : Reachable (blank.carryOut as) := reachable_carryOut reachable_blank as
  refine ⟨?_, ?_, ?_, consistent_of_reachable hreachable⟩
  · decide +kernel
  · decide +kernel
  · decide +kernel

end Site

end MeshAgent
