import MeshAgent.Database.Damage
import MeshAgent.Proofs.Store.Fields
import MeshAgent.Proofs.Store.Lookup

/-!
# Damaged tables

Whatever is written into the columns behind the back of the store, the database itself sees to it
that ids and identities belong to one row each. That is all it takes to say what the reads answer:
each row is read by itself, and the list fails with any of its rows.
-/
namespace MeshAgent

namespace Tables

variable {storeKey : Bytes} {t t' : Tables} {r : InterfaceRow}

/-- What the database itself sees to, whatever is written into its columns. -/
structure Lawful (t : Tables) : Prop where
  ordered : InterfaceRow.Ordered t.interfaces
  fits : ∀ r ∈ t.interfaces, fitsColumn r.id = true
  distinct : ∀ r ∈ t.interfaces, ∀ s ∈ t.interfaces, r.id ≠ s.id → ∀ i : Identity,
    i.shared r.toInterfaceColumns s.toInterfaceColumns = false

lemma Sound.lawful (ht : t.Sound storeKey) : t.Lawful := ⟨ht.ordered, fun _ => ht.fits, ht.distinct⟩

lemma Lawful.load_eq (ht : t.Lawful) (hr : r ∈ t.interfaces) :
    t.load storeKey r.id = orFail (Stored.interface storeKey r (t.peersOf r.id)) := by
  have hfind : t.interface? r.id = some r := ht.ordered.find?_eq hr
  rw [load, ht.fits r hr, hfind]
  rfl

/-- Names lead to the one row that has them. -/
lemma Lawful.loadNamed_eq (ht : t.Lawful) (hr : r ∈ t.interfaces) :
    t.loadNamed storeKey r.deviceName r.netName = t.load storeKey r.id := by
  rw [loadNamed]
  cases hfind : t.interfaceNamed? r.deviceName r.netName with
  | none =>
    have hnot := List.find?_eq_none.mp hfind r hr
    simp at hnot
  | some s =>
    have hs := List.mem_of_find?_eq_some hfind
    have hnames := List.find?_some hfind
    simp only [Bool.and_eq_true, decide_eq_true_eq] at hnames
    have hid : s.id = r.id := by
      by_contra hne
      have hshared := ht.distinct s hs r hr hne .networkAndDeviceName
      simp [Identity.shared, hnames] at hshared
    exact congrArg (t.load storeKey) hid

/-- The newest entry under an id, or why it cannot be read. -/
def newestOf (t : Tables) (id : Int) : Except Failure (Option Entry) :=
  match t.lastLog? id with
  | none => .ok none
  | some row => (History.entryOfRow row).map some

lemma newest_eq_newestOf {i : Interface} (h : fitsColumn i.id = true) :
    t.newest i = t.newestOf i.id := by
  rw [newest, h]
  rfl

lemma newestOf_eq_error {id : Int} {f : Failure} :
    t.newestOf id = .error f ↔
      ∃ row, t.lastLog? id = some row ∧ History.entryOfRow row = .error f := by
  rw [newestOf]
  cases t.lastLog? id with
  | none => simp
  | some row => cases h : History.entryOfRow row <;> simp [Except.map, h]

/-- What the list says about a row. -/
structure Lists (storeKey : Bytes) (t : Tables) (r : InterfaceRow) (item : Store.Listed) : Prop where
  interface : t.load storeKey r.id = .ok item.interface
  entry : t.newestOf r.id = .ok item.entry

lemma Lawful.id_of_load (ht : t.Lawful) (hr : r ∈ t.interfaces) {a : Interface}
    (h : t.load storeKey r.id = .ok a) : a.id = r.id := by
  rw [ht.load_eq hr] at h
  cases hread : Stored.interface storeKey r (t.peersOf r.id) with
  | error e => simp [hread, orFail] at h
  | ok b =>
    obtain rfl : b = a := by simpa [hread, orFail] using h
    exact (Stored.interface_eq_ok.mp hread).id

/-- An item of the list is read in two parts, either of which may fail. -/
lemma Lawful.loadListed_eq (ht : t.Lawful) (hr : r ∈ t.interfaces) :
    t.loadListed storeKey r.id = do
      let interface ← t.load storeKey r.id
      let entry ← t.newestOf r.id
      return { interface, entry } := by
  rw [loadListed]
  cases hload : t.load storeKey r.id with
  | error f => rfl
  | ok a =>
    have hid := ht.id_of_load hr hload
    have hnewest : t.newest a = t.newestOf r.id := by
      rw [newest_eq_newestOf (by rw [hid]; exact ht.fits r hr), hid]
    exact congrArg (fun x : Except Failure (Option Entry) => x >>= fun entry =>
      pure ({ interface := a, entry } : Store.Listed)) hnewest

lemma Lawful.loadListed_eq_ok (ht : t.Lawful) (hr : r ∈ t.interfaces) {item : Store.Listed} :
    t.loadListed storeKey r.id = .ok item ↔ Lists storeKey t r item := by
  simp only [ht.loadListed_eq hr, Except.bind_eq_ok]
  constructor
  · rintro ⟨interface, hinterface, entry, hentry, hitem⟩
    obtain rfl := Except.ok.inj hitem
    exact ⟨hinterface, hentry⟩
  · intro h
    exact ⟨_, h.interface, _, h.entry, rfl⟩

/-- The list has an item for every row, in order, and says of each what is stored. -/
lemma Lawful.listed_eq_ok (ht : t.Lawful) {items : List Store.Listed} :
    t.listed storeKey = .ok items ↔ List.Forall₂ (Lists storeKey t) t.interfaces items := by
  rw [listed, List.mapM_map, Except.mapM_eq_ok]
  -- rows are looked up by their ids, so that each of them has to be one of the table
  have hmem : ∀ {R S : InterfaceRow → Store.Listed → Prop},
      (∀ r ∈ t.interfaces, ∀ item, R r item → S r item) →
      List.Forall₂ R t.interfaces items → List.Forall₂ S t.interfaces items := by
    intro R S himp hR
    have hboth := (List.forall₂_and_left _ _).mpr ⟨fun r hr => hr, hR⟩
    exact hboth.imp fun r item hrow => himp r hrow.1 item hrow.2
  exact ⟨hmem fun r hr item => (ht.loadListed_eq_ok hr).mp,
    hmem fun r hr item => (ht.loadListed_eq_ok hr).mpr⟩

/-- The list fails exactly if an interface or its newest entry cannot be read. -/
lemma Lawful.listed_fails_iff (ht : t.Lawful) :
    (∃ f, t.listed storeKey = .error f) ↔
      ∃ r ∈ t.interfaces,
        (∃ f, t.load storeKey r.id = .error f) ∨ ∃ f, t.newestOf r.id = .error f := by
  rw [listed, List.mapM_map, Except.exists_mapM_error]
  refine exists_congr fun r => and_congr_right fun hr => ?_
  change (∃ f, t.loadListed storeKey r.id = .error f) ↔ _
  simp only [ht.loadListed_eq hr, Except.exists_bind_error]
  cases t.load storeKey r.id with
  | error f => simp
  | ok a => simp [pure, Except.pure]

/-- The tables agree in everything but the row and the peers of one interface. -/
structure SameBut (id : Int) (t t' : Tables) : Prop where
  interfaces : t'.interfaces.filter (fun r => r.id ≠ id) = t.interfaces.filter fun r => r.id ≠ id
  peers : ∀ j, j ≠ id → t'.peersOf j = t.peersOf j

/-- Damage to one interface cannot be seen in the others. -/
lemma SameBut.load_eq {id j : Int} (h : SameBut id t t') (hj : j ≠ id) :
    t'.load storeKey j = t.load storeKey j := by
  have hfind : ∀ rows : List InterfaceRow,
      rows.find? (fun r => r.id = j) =
        (rows.filter fun r => r.id ≠ id).find? fun r => r.id = j := by
    intro rows
    rw [List.find?_filter]
    refine congrArg (fun p => rows.find? p) (funext fun r => ?_)
    by_cases hr : r.id = j <;> simp [hr, hj]
  have hrow : t'.interface? j = t.interface? j := by
    rw [interface?, interface?, hfind, h.interfaces, ← hfind]
  rw [load, load, hrow, h.peers j hj]

/-- Damage leaves ids alone. -/
@[simp] lemma id_onInterface (d : Damage) (column : String) (r : InterfaceRow) :
    (d.onInterface column r).id = r.id := by
  unfold Damage.onInterface
  split <;> rfl

variable {column : String} {id : Int} {d : Damage} {n : Nat}

/-- What damage to the row of an interface does: nothing, or a row that shares no identity with the
others takes the place of the row. -/
lemma damage_interface_eq_ok (h : t.damage "iface" column id d = .ok (t', n)) :
    t' = t ∨ ∃ row : InterfaceRow, row.id = id ∧ t.conflict? (some id) row.toInterfaceColumns = none ∧
      t' = { t with interfaces := t.interfaces.map fun s => if s.id = id then row else s } := by
  simp only [damage] at h
  cases hfind : t.interface? id with
  | none =>
    simp only [hfind, Except.ok.injEq, Prod.mk.injEq] at h
    exact Or.inl h.1.symm
  | some r =>
    simp only [hfind] at h
    cases hconflict : t.conflict? (some id) (d.onInterface column r).toInterfaceColumns with
    | some i => simp [hconflict] at h
    | none =>
      simp only [hconflict, Except.ok.injEq, Prod.mk.injEq] at h
      have hid := List.find?_some hfind
      exact Or.inr ⟨d.onInterface column r, by simpa using hid, hconflict, h.1.symm⟩

/-- Damage to the row of an interface keeps what the database itself sees to. -/
theorem Lawful.damage_interface (ht : t.Lawful)
    (h : t.damage "iface" column id d = .ok (t', n)) : t'.Lawful := by
  obtain rfl | ⟨row, hrow, hconflict, rfl⟩ := damage_interface_eq_ok h
  · exact ht
  have hnew := conflict?_eq_none.mp hconflict
  have hid : ∀ s : InterfaceRow, (if s.id = id then row else s).id = s.id := by
    intro s
    by_cases hs : s.id = id
    · rw [if_pos hs, hrow, hs]
    · rw [if_neg hs]
  constructor
  case ordered =>
    refine List.pairwise_map.mpr (ht.ordered.imp fun {r s} hlt => ?_)
    rw [hid, hid]
    exact hlt
  case fits =>
    intro r hr
    obtain ⟨s, hs, rfl⟩ := List.mem_map.mp hr
    rw [hid]
    exact ht.fits s hs
  case distinct =>
    intro q' hq' r' hr' hne i
    obtain ⟨q, hq, rfl⟩ := List.mem_map.mp hq'
    obtain ⟨r, hr, rfl⟩ := List.mem_map.mp hr'
    rw [hid, hid] at hne
    by_cases hqid : q.id = id
    · have hrid : r.id ≠ id := fun heq => hne (hqid.trans heq.symm)
      rw [if_pos hqid, if_neg hrid, Identity.shared_comm]
      exact hnew r hr (by simpa using hrid) i
    · rw [if_neg hqid]
      by_cases hrid : r.id = id
      · rw [if_pos hrid]
        exact hnew q hq (by simpa using hqid) i
      · rw [if_neg hrid]
        exact ht.distinct q hq r hr hne i

/-- Damage to the row of an interface does not reach beyond the interface. -/
theorem sameBut_damage_interface (h : t.damage "iface" column id d = .ok (t', n)) :
    SameBut id t t' := by
  obtain rfl | ⟨row, hrow, -, rfl⟩ := damage_interface_eq_ok h
  · exact ⟨rfl, fun j _ => rfl⟩
  refine ⟨?_, fun j _ => rfl⟩
  change (t.interfaces.map _).filter _ = _
  induction t.interfaces with
  | nil => rfl
  | cons s rows ih =>
    rw [List.map_cons, List.filter_cons, List.filter_cons, ih]
    by_cases hs : s.id = id
    · simp [hs, hrow]
    · simp [hs]

lemma interfaceId_onPeer (hcolumn : column ≠ "iface_id") (p : PeerRow) :
    (d.onPeer column p).interfaceId = p.interfaceId := by
  unfold Damage.onPeer
  split <;> first | rfl | exact absurd rfl hcolumn

/-- Neither does damage to one of its peers. -/
theorem sameBut_damage_peer {rowId : Int} (h : t.damage "peer" column rowId d = .ok (t', n))
    (hcolumn : column ≠ "iface_id") (hof : ∀ p ∈ t.peers, p.rowId = rowId → p.interfaceId = id) :
    SameBut id t t' := by
  simp only [damage, Except.ok.injEq, Prod.mk.injEq] at h
  obtain ⟨rfl, -⟩ := h
  refine ⟨rfl, fun j hj => ?_⟩
  change (t.peers.map _).filter _ = t.peers.filter _
  generalize t.peers = peers at hof
  induction peers with
  | nil => rfl
  | cons p peers ih =>
    have hrest := ih fun q hq => hof q (List.mem_cons_of_mem _ hq)
    rw [List.map_cons, List.filter_cons, List.filter_cons, hrest]
    by_cases hp : p.rowId = rowId
    · have hother : p.interfaceId ≠ j := fun heq =>
        hj (heq ▸ hof p List.mem_cons_self hp)
      simp [hp, interfaceId_onPeer hcolumn, hother]
    · simp [hp]

end Tables

end MeshAgent
