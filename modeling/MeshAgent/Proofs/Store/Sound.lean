import MeshAgent.Proofs.Address.Printed
import MeshAgent.Proofs.Database.Rows
import MeshAgent.Proofs.Key.Written
import MeshAgent.Proofs.Store.Calls
import MeshAgent.Proofs.Store.Callback
import MeshAgent.Proofs.Store.Fields

/-!
# Sound tables

What is written of an interface is read back as it was, whatever nonces its secrets were sealed with.
Tables that only a store has written hold interfaces in this sense, one for each id, no two of them
with an identity in common, and entries that can be read. Every change of the tables keeps this.
-/
namespace MeshAgent

section

variable {activity : Activity} {field : String}

lemma Stored.parse_ok {α : Type} {read : String → Except AgentError α} {text : String} {a : α}
    (h : read text = .ok a) : Stored.parse read text activity field = .ok a := by
  rw [Stored.parse, h]

lemma Stored.opened_blob {key nonce : Bytes} (hk : key.length = SecretBox.keySize)
    (hn : nonce.length = SecretBox.nonceSize) (secret : Bytes) :
    Stored.opened key (Secret.blob key nonce secret) activity field = .ok secret := by
  rw [Stored.opened, Secret.decrypt_blob hk hn]

lemma Stored.peer_toPeerColumns {d : Device} (h : d.publicKey.length = Key.size) :
    Stored.peer activity d.toPeerColumns = .ok d := by
  have haddr := @Stored.parse_ok activity "peer address" _ Address.parse d.addr.text _
    (Address.parse_text d.addr)
  have hkey := @Stored.parse_ok activity "peer public key" _ Key.parse (Key.format d.publicKey) _
    (Key.parse_format h)
  simp only [Stored.peer, Device.toPeerColumns, haddr, hkey]
  rfl

end

/-- The row and the peers that go with it are the stored form of an interface. -/
structure InterfaceRow.Stores (key : Bytes) (a : Interface) (peers : List PeerColumns)
    (r : InterfaceRow) : Prop where
  id : r.id = a.id
  columns : ∃ n₁ n₂ : Bytes, n₁.length = SecretBox.nonceSize ∧ n₂.length = SecretBox.nonceSize ∧
    r.toInterfaceColumns =
      a.toColumns (Secret.blob key n₁ a.key) (Secret.blob key n₂ a.deviceToken)
  peers : peers = a.peers.map Device.toPeerColumns
  publicKey : a.device.publicKey.length = Key.size
  peerKeys : ∀ p ∈ a.peers, p.publicKey.length = Key.size

/-- Reading the stored form of an interface gives the interface back. -/
theorem InterfaceRow.Stores.read {key : Bytes} {a : Interface} {peers : List PeerRow}
    {r : InterfaceRow} (hk : key.length = SecretBox.keySize)
    (h : r.Stores key a (peers.map fun p => p.toPeerColumns)) :
    Stored.interface key r peers = .ok a := by
  obtain ⟨n₁, n₂, hn₁, hn₂, hcols⟩ := h.columns
  have hpeers : (peers.mapM fun p => Stored.peer (.queryInterface r.id) p.toPeerColumns) =
      .ok a.peers := by
    have hread : (a.peers.map Device.toPeerColumns).mapM (Stored.peer (.queryInterface r.id)) =
        pure a.peers := mapM_read fun d hd => Stored.peer_toPeerColumns (h.peerKeys d hd)
    rw [← h.peers, List.mapM_map] at hread
    exact hread
  obtain ⟨columns, id, createdAt, updatedAt⟩ := r
  obtain rfl : columns = _ := hcols
  obtain rfl : id = a.id := h.id
  simp only [Stored.interface, Interface.toColumns, hpeers, Stored.opened_blob hk hn₁,
    Stored.opened_blob hk hn₂, Stored.parse_ok (Address.parse_text _),
    Stored.parse_ok (Key.parse_format h.publicKey)]
  rfl

namespace Tables

/-- The interface is stored. -/
def Holds (t : Tables) (key : Bytes) (a : Interface) : Prop :=
  ∃ r ∈ t.interfaces, r.Stores key a (t.peerColumns a.id)

/-- What is true of tables that only a store with the given key has written. -/
structure Sound (key : Bytes) (t : Tables) : Prop where
  ordered : InterfaceRow.Ordered t.interfaces
  pos : ∀ r ∈ t.interfaces, 0 < r.id
  le_last : ∀ r ∈ t.interfaces, r.id ≤ t.lastInterfaceId
  last_nonneg : 0 ≤ t.lastInterfaceId
  last_le : t.lastInterfaceId ≤ maxInteger
  distinct : ∀ r ∈ t.interfaces, ∀ s ∈ t.interfaces, r.id ≠ s.id → ∀ i : Identity,
    i.shared r.toInterfaceColumns s.toInterfaceColumns = false
  held : ∀ r ∈ t.interfaces, ∃ a, a.id = r.id ∧ t.Holds key a
  log_ordered : t.log.Pairwise fun r s => r.id < s.id
  log_le : ∀ r ∈ t.log, r.id ≤ t.lastLogId
  log_readable : ∀ r ∈ t.log, ∃ e, History.entryOfRow r = .ok e

lemma sound_empty (key : Bytes) : Sound key {} where
  ordered := List.Pairwise.nil
  pos := by simp
  le_last := by simp
  last_nonneg := Int.le_refl 0
  last_le := by decide
  distinct := by simp
  held := by simp
  log_ordered := List.Pairwise.nil
  log_le := by simp
  log_readable := by simp

/-- What is in order about tables that stores have written, under whatever keys. -/
structure Orderly (t : Tables) : Prop where
  ordered : InterfaceRow.Ordered t.interfaces
  last_nonneg : 0 ≤ t.lastInterfaceId
  last_le : t.lastInterfaceId ≤ maxInteger

lemma Sound.orderly {key : Bytes} {t : Tables} (ht : t.Sound key) : t.Orderly :=
  ⟨ht.ordered, ht.last_nonneg, ht.last_le⟩

end Tables

lemma Identity.shared_comm (i : Identity) (a b : InterfaceColumns) :
    i.shared a b = i.shared b a := by
  cases i <;> simp [Identity.shared, eq_comm]

lemma Key.forM_check_eq_ok {ps : List Device} {activity : Activity} {entity : Device → String} :
    (ps.forM fun p => Key.check p.publicKey activity (entity p)) = .ok () ↔
      ∀ p ∈ ps, p.publicKey.length = Key.size := by
  induction ps with
  | nil => simp [pure, Except.pure]
  | cons p ps ih =>
    change (Key.check p.publicKey activity (entity p) >>= fun _ =>
      ps.forM fun p => Key.check p.publicKey activity (entity p)) = .ok () ↔ _
    simp only [Except.bind_eq_ok, Unique.exists_iff, PUnit.default_eq_unit, Key.check_eq_ok, ih,
      List.forall_mem_cons]

/-- All keys of an interface have the length of keys. -/
structure Interface.WellKeyed (i : Interface) : Prop where
  key : i.key.length = Key.size
  publicKey : i.device.publicKey.length = Key.size
  peerKeys : ∀ p ∈ i.peers, p.publicKey.length = Key.size

lemma Interface.checkKeys_eq_ok {i : Interface} {activity : Activity} :
    i.checkKeys activity = .ok () ↔ i.WellKeyed := by
  simp only [Interface.checkKeys, Except.bind_eq_ok, Unique.exists_iff, PUnit.default_eq_unit,
    Key.check_eq_ok, Key.forM_check_eq_ok]
  exact ⟨fun ⟨hkey, hpublic, hpeers⟩ => ⟨hkey, hpublic, hpeers⟩,
    fun h => ⟨h.key, h.publicKey, h.peerKeys⟩⟩

namespace Change

/-- What a write that succeeds has checked and done. -/
lemma store_eq_ok {s : Store} {now : Int} {e : Entropy} {i : Interface} {t t' : Tables} {id : Int}
    (h : (store s now e i).run t = .ok (id, t')) :
    (i.device.publicKey.length = Key.size ∧ ∀ p ∈ i.peers, p.publicKey.length = Key.size) ∧
      (∀ n ∈ i.givenId, fitsColumn n = true) ∧
      ∃ t₁, t.upsertInterface i.givenId (now.tdiv 1000000) (i.sealedColumns s.key e) =
        .ok (t₁, id) ∧ t' = t₁.replacePeers id i.peers := by
  rw [store] at h
  cases hcheck : i.checkKeys (.upsertInterface i.label) with
  | error f => simp [hcheck, orFail, run_guarded_error] at h
  | ok u =>
    rw [hcheck, orFail, guarded_ok, run_ensure] at h
    have hkeys := Interface.checkKeys_eq_ok.mp hcheck
    refine ⟨⟨hkeys.publicKey, hkeys.peerKeys⟩, ?_⟩
    cases hrun : (upsert s now e i).run t with
    | error f => simp [hrun, Except.map] at h
    | ok r =>
      obtain ⟨id₁, t₁⟩ := r
      simp only [hrun, Except.map, Except.ok.injEq, Prod.mk.injEq] at h
      obtain ⟨rfl, rfl⟩ := h
      obtain ⟨hfits, hup⟩ := statement_eq_ok.mp hrun
      refine ⟨fun n hn => hfits n (List.mem_append_left _ ?_), _, hup, rfl⟩
      simpa using hn

end Change

namespace Tables

/-- `t'` is what a write of the interface `a` has made of the tables `t`. -/
structure Wrote (key : Bytes) (t : Tables) (a : Interface) (t' : Tables) : Prop where
  sound : t'.Sound key
  holds : t'.Holds key a
  others : ∀ b, b.id ≠ a.id → (t'.Holds key b ↔ t.Holds key b)
  log : t'.log = t.log
  lastLogId : t'.lastLogId = t.lastLogId

/-- The id that a write uses is one that a column holds, and no new one has been used before. -/
lemma Orderly.idFor_bounds {t : Tables} (ht : t.Orderly) {i : Interface} {id : Int}
    (hfits : ∀ n ∈ i.givenId, fitsColumn n = true) (h : t.idFor i.givenId = .ok id) :
    0 < id ∧ id ≤ maxInteger ∧ (0 < i.id → id = i.id) := by
  have hnonneg := ht.last_nonneg
  have hle := ht.last_le
  by_cases hpos : 0 < i.id
  · have hgiven : i.givenId = some i.id := if_pos hpos
    rw [hgiven, idFor, Except.ok.injEq] at h
    have hfit := hfits i.id (by simp [hgiven])
    simp only [fitsColumn, Bool.and_eq_true, decide_eq_true_eq] at hfit
    exact ⟨by omega, by omega, fun _ => h.symm⟩
  · have hgiven : i.givenId = none := if_neg hpos
    rw [hgiven, idFor] at h
    split at h
    · simp at h
    · rw [Except.ok.injEq] at h
      exact ⟨by omega, by omega, fun hp => absurd hp hpos⟩

/-- The rows once one of them has been written. -/
lemma Orderly.rows_upsert {t t₁ : Tables} {given : Option Int} {now id : Int}
    {c : InterfaceColumns} (ht : t.Orderly)
    (h : t.upsertInterface given now c = .ok (t₁, id)) :
    ∃ row : InterfaceRow, row.id = id ∧ row.toInterfaceColumns = c ∧
      InterfaceRow.Ordered t₁.interfaces ∧
      ∀ r, r ∈ t₁.interfaces ↔ r = row ∨ r ∈ t.interfaces ∧ r.id ≠ id := by
  obtain ⟨-, -, rfl⟩ := upsertInterface_eq_ok h
  obtain ⟨row, hrow, hcols, hmem⟩ :=
    @InterfaceRow.mem_written _ (t.hasInterface id) _ ht.ordered hasInterface_iff now c
  exact ⟨row, hrow, hcols,
    @InterfaceRow.Ordered.written _ (t.hasInterface id) _ ht.ordered hasInterface_iff now c, hmem⟩

/-- A write that succeeds stores the interface and leaves the others as they were, also those that are
sealed under other keys. -/
theorem Orderly.stored {s : Store} {now : Int} {e : Entropy} {i : Interface} {t t' : Tables}
    {id : Int} (ht : t.Orderly) (h : (Change.store s now e i).run t = .ok (id, t')) :
    t'.Orderly ∧ t'.Holds s.key { i with id } ∧
      ∀ key b, b.id ≠ id → (t'.Holds key b ↔ t.Holds key b) := by
  obtain ⟨⟨hpublic, hpeerKeys⟩, hfits, t₁, hup, rfl⟩ := Change.store_eq_ok h
  obtain ⟨row, hrow, hcols, hordered, hmem⟩ := ht.rows_upsert hup
  obtain ⟨hid, -, ht₁⟩ := upsertInterface_eq_ok hup
  obtain ⟨hpos, hmax, -⟩ := ht.idFor_bounds hfits hid
  have hlast : t₁.lastInterfaceId = max t.lastInterfaceId id := by rw [ht₁]
  have hnonneg := ht.last_nonneg
  have hle := ht.last_le
  have hpeers : ∀ j, (t₁.replacePeers id i.peers).peerColumns j =
      if j = id then i.peers.map Device.toPeerColumns else t.peerColumns j := by
    intro j
    rw [peerColumns_replacePeers, ht₁]
    rfl
  have hstores : row.Stores s.key { i with id } (i.peers.map Device.toPeerColumns) :=
    ⟨hrow, ⟨e.nonce, (e.skip 1).nonce, e.length_nonce, (e.skip 1).length_nonce, hcols⟩, rfl,
      hpublic, hpeerKeys⟩
  have hmem' : ∀ r, r ∈ (t₁.replacePeers id i.peers).interfaces ↔
      r = row ∨ r ∈ t.interfaces ∧ r.id ≠ id := by simpa using hmem
  refine ⟨⟨by simpa using hordered, ?_, ?_⟩, ⟨row, (hmem' row).mpr (Or.inl rfl), ?_⟩,
    fun key b hb => ?_⟩
  · rw [lastInterfaceId_replacePeers, hlast]
    omega
  · rw [lastInterfaceId_replacePeers, hlast]
    omega
  · rwa [hpeers, if_pos rfl]
  · simp only [Holds, hpeers, if_neg hb]
    constructor
    · rintro ⟨r, hr, hother⟩
      rcases (hmem' r).mp hr with rfl | ⟨hr, -⟩
      · exact absurd (hother.id.symm.trans hrow) hb
      · exact ⟨r, hr, hother⟩
    · rintro ⟨r, hr, hother⟩
      exact ⟨r, (hmem' r).mpr (Or.inr ⟨hr, by rw [hother.id]; exact hb⟩), hother⟩

/-- A write that succeeds keeps the tables sound. -/
theorem Sound.wrote {s : Store} {now : Int} {e : Entropy} {i : Interface} {t t' : Tables} {id : Int}
    (ht : t.Sound s.key) (h : (Change.store s now e i).run t = .ok (id, t')) :
    Wrote s.key t { i with id } t' ∧ (0 < i.id → id = i.id) := by
  obtain ⟨horderly, hholds, hothers⟩ := ht.orderly.stored h
  obtain ⟨-, hfits, t₁, hup, rfl⟩ := Change.store_eq_ok h
  obtain ⟨row, hrow, hcols, -, hmem⟩ := ht.orderly.rows_upsert hup
  obtain ⟨hid, hconflict, ht₁⟩ := upsertInterface_eq_ok hup
  obtain ⟨hpos, -, hgiven⟩ := ht.orderly.idFor_bounds hfits hid
  have hlast : t₁.lastInterfaceId = max t.lastInterfaceId id := by rw [ht₁]
  have hlog : t₁.log = t.log ∧ t₁.lastLogId = t.lastLogId := by rw [ht₁]; exact ⟨rfl, rfl⟩
  have hmem' : ∀ r, r ∈ (t₁.replacePeers id i.peers).interfaces ↔
      r = row ∨ r ∈ t.interfaces ∧ r.id ≠ id := by simpa using hmem
  have hnew := conflict?_eq_none.mp hconflict
  refine ⟨⟨?_, hholds, hothers s.key, by simpa using hlog.1, by simpa using hlog.2⟩, hgiven⟩
  constructor
  case ordered => exact horderly.ordered
  case last_nonneg => exact horderly.last_nonneg
  case last_le => exact horderly.last_le
  case pos =>
    intro r hr
    rcases (hmem' r).mp hr with rfl | ⟨hr, -⟩
    · rwa [hrow]
    · exact ht.pos r hr
  case le_last =>
    intro r hr
    rw [lastInterfaceId_replacePeers, hlast]
    rcases (hmem' r).mp hr with rfl | ⟨hr, -⟩
    · omega
    · have hle := ht.le_last r hr
      omega
  case distinct =>
    intro q hq r hr hne k
    rcases (hmem' q).mp hq with rfl | ⟨hq, hqid⟩
    · rcases (hmem' r).mp hr with rfl | ⟨hr, hrid⟩
      · exact absurd rfl hne
      · rw [Identity.shared_comm, hcols]
        exact hnew r hr (by simpa using hrid) k
    · rcases (hmem' r).mp hr with rfl | ⟨hr, hrid⟩
      · rw [hcols]
        exact hnew q hq (by simpa using hqid) k
      · exact ht.distinct q hq r hr hne k
  case held =>
    intro r hr
    rcases (hmem' r).mp hr with rfl | ⟨hr, hrid⟩
    · exact ⟨{ i with id }, hrow.symm, hholds⟩
    · obtain ⟨b, hb, hbheld⟩ := ht.held r hr
      exact ⟨b, hb, (hothers _ b (by rw [hb]; exact hrid)).mpr hbheld⟩
  case log_ordered =>
    rw [log_replacePeers, hlog.1]
    exact ht.log_ordered
  case log_le =>
    rw [log_replacePeers, lastLogId_replacePeers, hlog.1, hlog.2]
    exact ht.log_le
  case log_readable =>
    rw [log_replacePeers, hlog.1]
    exact ht.log_readable

lemma appendLog_eq_ok {t t' : Tables} {c : LogColumns} {id : Int}
    (h : t.appendLog c = .ok (t', id)) :
    t.hasInterface c.interfaceId = true ∧ id = t.lastLogId + 1 ∧
      t' = { t with
        log := t.log ++ [{ c with id := t.lastLogId + 1 }]
        lastLogId := t.lastLogId + 1 } := by
  rw [appendLog] at h
  split at h
  · simp at h
  · split at h
    · rename_i hthere
      simp only [Except.ok.injEq, Prod.mk.injEq] at h
      exact ⟨hthere, h.2.symm, h.1.symm⟩
    · simp at h

end Tables

namespace Change

variable {now : Int} {i : Interface} {operation : Operation} {state : State} {dirty : Bool}
  {message : String} {t t' : Tables} {e : Entry}

/-- What an entry that was added has needed and done. -/
lemma append_eq_ok (h : (append now i operation state dirty message).run t = .ok (e, t')) :
    fitsColumn i.id = true ∧ t.hasInterface i.id = true ∧
      e = { id := t.lastLogId + 1, seconds := now.fdiv 1000000, operation, state, dirty, message } ∧
      t' = { t with
        log := t.log ++ [{ id := t.lastLogId + 1, seconds := some (now.fdiv 1000000)
                           interfaceId := i.id, operation := operation.name, state := state.name
                           dirty := if dirty then 1 else 0, message }]
        lastLogId := t.lastLogId + 1 } := by
  obtain ⟨id, hrun, rfl⟩ := run_map_eq_ok h
  obtain ⟨hfits, hadd⟩ := statement_eq_ok.mp hrun
  obtain ⟨hthere, rfl, rfl⟩ := Tables.appendLog_eq_ok hadd
  exact ⟨hfits i.id List.mem_cons_self, hthere, rfl, rfl⟩

end Change

namespace Tables

/-- `t'` is what the entry `e` about the interface with the given id has made of the tables `t`. -/
structure Logged (key : Bytes) (t : Tables) (id : Int) (e : Entry) (t' : Tables) : Prop where
  sound : t'.Sound key
  holds : ∀ b, t'.Holds key b ↔ t.Holds key b
  interfaces : t'.interfaces = t.interfaces
  known : t.hasInterface id = true
  log : ∃ r : LogRow, t'.log = t.log ++ [r] ∧ r.interfaceId = id ∧ History.entryOfRow r = .ok e

lemma entryOfRow_written {id interfaceId seconds : Int} (h : History.checkTime seconds = .ok ())
    (operation : Operation) (state : State) (dirty : Bool) (message : String) :
    History.entryOfRow
        { id, seconds := some seconds, interfaceId, operation := operation.name
          state := state.name, dirty := if dirty then 1 else 0, message } =
      .ok { id, seconds, operation, state, dirty, message } := by
  simp only [History.entryOfRow, Operation.ofName?_name, State.ofName?_name, Option.getD_some, h]
  cases dirty <;> rfl

/-- An entry that was added stands behind all others and can be read. -/
theorem Sound.logged {key : Bytes} {now : Int} {i : Interface} {operation : Operation}
    {state : State} {dirty : Bool} {message : String} {t t' : Tables} {e : Entry}
    (ht : t.Sound key) (hclock : History.checkTime (now.fdiv 1000000) = .ok ())
    (h : (Change.append now i operation state dirty message).run t = .ok (e, t')) :
    Logged key t i.id e t' := by
  obtain ⟨-, hthere, rfl, rfl⟩ := Change.append_eq_ok h
  have hread := @entryOfRow_written (t.lastLogId + 1) i.id _ hclock operation state dirty message
  refine ⟨?_, fun b => Iff.rfl, rfl, hthere, _, rfl, rfl, hread⟩
  exact {
    ordered := ht.ordered
    pos := ht.pos
    le_last := ht.le_last
    last_nonneg := ht.last_nonneg
    last_le := ht.last_le
    distinct := ht.distinct
    held := ht.held
    log_ordered := by
      refine List.pairwise_append.mpr ⟨ht.log_ordered, List.pairwise_singleton _ _, ?_⟩
      intro r hr s hs
      have hle := ht.log_le r hr
      rw [List.mem_singleton.mp hs]
      exact Int.lt_add_one_of_le hle
    log_le := by
      intro r hr
      rcases List.mem_append.mp hr with hr | hr
      · have hle := ht.log_le r hr
        exact Int.le_trans hle (Int.le_of_lt (Int.lt_succ _))
      · obtain rfl := List.mem_singleton.mp hr
        exact Int.le_refl _
    log_readable := by
      intro r hr
      rcases List.mem_append.mp hr with hr | hr
      · exact ht.log_readable r hr
      · rw [List.mem_singleton.mp hr]
        exact ⟨_, hread⟩ }

end Tables

end MeshAgent
