import MeshAgent.Proofs.Store.Steps

/-!
# Rows

The rows of the interfaces stand in order of their ids, so that an id belongs to one row. Writing a
row puts it in the place of the row with its id and leaves the others alone; replacing the peers of
one interface leaves those of the others alone.
-/
namespace MeshAgent

namespace InterfaceRow

/-- Rows in order of their ids, none of which stands twice. -/
def Ordered (rows : List InterfaceRow) : Prop := rows.Pairwise fun r s => r.id < s.id

lemma Ordered.eq_of_id_eq {rows : List InterfaceRow} (h : Ordered rows) {r s : InterfaceRow}
    (hr : r ∈ rows) (hs : s ∈ rows) (he : r.id = s.id) : r = s := by
  induction rows with
  | nil => simp at hr
  | cons q rows ih =>
    obtain ⟨hq, hrows⟩ := List.pairwise_cons.mp h
    rcases List.mem_cons.mp hr with hrq | hrin
    · rcases List.mem_cons.mp hs with hsq | hsin
      · rw [hrq, hsq]
      · have hlt := hq s hsin
        rw [hrq] at he
        omega
    · rcases List.mem_cons.mp hs with hsq | hsin
      · have hlt := hq r hrin
        rw [hsq] at he
        omega
      · exact ih hrows hrin hsin

lemma Ordered.find?_eq {rows : List InterfaceRow} (h : Ordered rows) {r : InterfaceRow}
    (hr : r ∈ rows) : rows.find? (fun s => s.id = r.id) = some r := by
  cases hf : rows.find? (fun s => s.id = r.id) with
  | none =>
    have hne := List.find?_eq_none.mp hf r hr
    simp at hne
  | some s =>
    have hid := List.find?_some hf
    rw [h.eq_of_id_eq (List.mem_of_find?_eq_some hf) hr (by simpa using hid)]

lemma Ordered.insertRow {rows : List InterfaceRow} (h : Ordered rows) {row : InterfaceRow}
    (hne : ∀ r ∈ rows, r.id ≠ row.id) : Ordered (Tables.insertRow row rows) := by
  induction rows with
  | nil => exact List.pairwise_singleton _ _
  | cons q rows ih =>
    obtain ⟨hq, hrows⟩ := List.pairwise_cons.mp h
    rw [Tables.insertRow]
    split
    · rename_i hlt
      refine List.pairwise_cons.mpr ⟨fun s hs => ?_, h⟩
      rcases List.mem_cons.mp hs with rfl | hs
      · exact hlt
      · have hqs := hq s hs
        omega
    · rename_i hge
      have hqrow := hne q List.mem_cons_self
      refine List.pairwise_cons.mpr ⟨fun s hs => ?_, ih hrows fun r hr =>
        hne r (List.mem_cons_of_mem _ hr)⟩
      rcases Tables.mem_insertRow.mp hs with rfl | hs
      · omega
      · exact hq s hs

/-- The written row takes the place of the row with its id, if there is one. -/
lemma mem_written {rows : List InterfaceRow} {known : Bool} {id : Int} (h : Ordered rows)
    (hknown : known = true ↔ ∃ r ∈ rows, r.id = id) (now : Int) (c : InterfaceColumns) :
    ∃ row : InterfaceRow, row.id = id ∧ row.toInterfaceColumns = c ∧
      ∀ r, r ∈ written rows known id now c ↔ r = row ∨ r ∈ rows ∧ r.id ≠ id := by
  cases known with
  | false =>
    refine ⟨{ c with id, createdAt := some now, updatedAt := some now }, rfl, rfl, fun r => ?_⟩
    simp only [written, Bool.false_eq_true, if_false, Tables.mem_insertRow]
    refine or_congr_right ⟨fun hr => ⟨hr, fun hid => ?_⟩, And.left⟩
    have hthere := hknown.mpr ⟨r, hr, hid⟩
    simp at hthere
  | true =>
    obtain ⟨q, hq, hid⟩ := hknown.mp rfl
    refine ⟨{ q with toInterfaceColumns := c, updatedAt := some now }, hid, rfl, fun r => ?_⟩
    simp only [written, if_true, List.mem_map]
    constructor
    · rintro ⟨s, hs, rfl⟩
      by_cases hsid : s.id = id
      · rw [if_pos hsid, h.eq_of_id_eq hs hq (hsid.trans hid.symm)]
        exact Or.inl rfl
      · rw [if_neg hsid]
        exact Or.inr ⟨hs, hsid⟩
    · rintro (rfl | ⟨hr, hne⟩)
      · exact ⟨q, hq, if_pos hid⟩
      · exact ⟨r, hr, if_neg hne⟩

lemma Ordered.written {rows : List InterfaceRow} {known : Bool} {id : Int} (h : Ordered rows)
    (hknown : known = true ↔ ∃ r ∈ rows, r.id = id) (now : Int) (c : InterfaceColumns) :
    Ordered (written rows known id now c) := by
  cases known with
  | false =>
    simp only [InterfaceRow.written, Bool.false_eq_true, if_false]
    refine h.insertRow fun r hr hid => ?_
    have hthere := hknown.mpr ⟨r, hr, hid⟩
    simp at hthere
  | true =>
    simp only [InterfaceRow.written, if_true]
    refine List.pairwise_map.mpr (h.imp fun {r s} hlt => ?_)
    have hid : ∀ q : InterfaceRow, (if q.id = id then
        { q with toInterfaceColumns := c, updatedAt := some now } else q).id = q.id := by
      intro q
      split <;> rfl
    rw [hid, hid]
    exact hlt

end InterfaceRow

namespace Tables

/-- Columns of the peers of an interface, in the order in which they were added. -/
def peerColumns (t : Tables) (id : Int) : List PeerColumns :=
  (t.peersOf id).map fun p => p.toPeerColumns

lemma peerColumns_addPeer (t : Tables) (id j : Int) (c : PeerColumns) :
    (t.addPeer id c).peerColumns j = t.peerColumns j ++ if j = id then [c] else [] := by
  simp only [peerColumns, peersOf, addPeer, List.filter_append, List.map_append]
  by_cases h : j = id
  · simp [h]
  · simp [h, Ne.symm h]

lemma peerColumns_addPeers (t : Tables) (id j : Int) (ps : List Device) :
    (t.addPeers id ps).peerColumns j =
      t.peerColumns j ++ if j = id then ps.map Device.toPeerColumns else [] := by
  induction ps generalizing t with
  | nil => simp [addPeers]
  | cons p ps ih =>
    have hstep : t.addPeers id (p :: ps) = (t.addPeer id p.toPeerColumns).addPeers id ps := rfl
    rw [hstep, ih, peerColumns_addPeer]
    by_cases h : j = id <;> simp [h]

lemma peerColumns_deletePeers (t : Tables) (id j : Int) :
    (t.deletePeers id).peerColumns j = if j = id then [] else t.peerColumns j := by
  simp only [peerColumns, peersOf, deletePeers, List.filter_filter]
  by_cases h : j = id
  · simp [h]
  · have hsame :
        t.peers.filter (fun p => decide (p.interfaceId = j) && decide (p.interfaceId ≠ id)) =
        t.peers.filter fun p => decide (p.interfaceId = j) := by
      refine List.filter_congr fun p _ => ?_
      by_cases hp : p.interfaceId = j
      · simp [hp, h]
      · simp [hp]
    rw [hsame, if_neg h]

/-- The peers of one interface are replaced as a whole. -/
lemma peerColumns_replacePeers (t : Tables) (id j : Int) (ps : List Device) :
    (t.replacePeers id ps).peerColumns j =
      if j = id then ps.map Device.toPeerColumns else t.peerColumns j := by
  rw [replacePeers, peerColumns_addPeers, peerColumns_deletePeers]
  by_cases h : j = id <;> simp [h]

/-- Nothing but the peers has changed. -/
lemma addPeers_frame (t : Tables) (id : Int) (ps : List Device) :
    (t.addPeers id ps) = { t with peers := (t.addPeers id ps).peers } := by
  induction ps generalizing t with
  | nil => rfl
  | cons p ps ih => exact ih (t.addPeer id p.toPeerColumns)

lemma replacePeers_frame (t : Tables) (id : Int) (ps : List Device) :
    t.replacePeers id ps = { t with peers := (t.replacePeers id ps).peers } :=
  addPeers_frame (t.deletePeers id) id ps

@[simp] lemma interfaces_replacePeers (t : Tables) (id : Int) (ps : List Device) :
    (t.replacePeers id ps).interfaces = t.interfaces := by rw [replacePeers_frame]

@[simp] lemma log_replacePeers (t : Tables) (id : Int) (ps : List Device) :
    (t.replacePeers id ps).log = t.log := by rw [replacePeers_frame]

@[simp] lemma lastInterfaceId_replacePeers (t : Tables) (id : Int) (ps : List Device) :
    (t.replacePeers id ps).lastInterfaceId = t.lastInterfaceId := by rw [replacePeers_frame]

@[simp] lemma lastLogId_replacePeers (t : Tables) (id : Int) (ps : List Device) :
    (t.replacePeers id ps).lastLogId = t.lastLogId := by rw [replacePeers_frame]

/-- No row but that of `self` has an identity in common with the columns. -/
lemma conflict?_eq_none {t : Tables} {self : Option Int} {c : InterfaceColumns} :
    t.conflict? self c = none ↔
      ∀ r ∈ t.interfaces, some r.id ≠ self → ∀ i : Identity,
        i.shared r.toInterfaceColumns c = false := by
  have hall : ∀ i : Identity, i ∈ Identity.all := by
    intro i
    cases i <;> simp [Identity.all]
  rw [conflict?, List.find?_eq_none]
  constructor
  · intro h r hr hself i
    have hi := h i (hall i)
    rw [Bool.not_eq_true, List.any_eq_false] at hi
    have hri := hi r hr
    simpa [hself] using hri
  · intro h i _
    rw [Bool.not_eq_true, List.any_eq_false]
    intro r hr
    by_cases hself : some r.id = self
    · simp [hself]
    · simp [h r hr hself i]

end Tables

end MeshAgent
