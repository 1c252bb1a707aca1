import MeshAgent.Proofs.Store.Blocks

/-!
# Looking up what is stored

Sound tables answer every lookup: the interface with an id, the interface with a pair of names, and
the list of all interfaces with their newest entries. What is not stored is reported as missing.
-/
namespace MeshAgent.Tables

variable {key : Bytes} {t : Tables} {a : Interface}

lemma Sound.fits (ht : t.Sound key) {r : InterfaceRow} (hr : r ∈ t.interfaces) :
    fitsColumn r.id = true := by
  have hpos := ht.pos r hr
  have hle := ht.le_last r hr
  have hmax := ht.last_le
  simp only [fitsColumn, Bool.and_eq_true, decide_eq_true_eq]
  rw [maxInteger] at hmax ⊢
  omega

/-- An interface that is stored is loaded. -/
theorem Orderly.load_eq (ht : t.Orderly) (hk : key.length = SecretBox.keySize)
    (hfits : fitsColumn a.id = true) (h : t.Holds key a) : t.load key a.id = .ok a := by
  obtain ⟨r, hr, hstores⟩ := h
  have hid := hstores.id
  have hfind : t.interface? r.id = some r := ht.ordered.find?_eq hr
  have hread := InterfaceRow.Stores.read hk (h := hstores)
  rw [hid] at hfind
  rw [load, hfits]
  simp only [Bool.not_true, Bool.false_eq_true, if_false, hfind, hread]
  rfl

theorem Sound.load_eq (ht : t.Sound key) (hk : key.length = SecretBox.keySize)
    (h : t.Holds key a) : t.load key a.id = .ok a := by
  refine ht.orderly.load_eq hk ?_ h
  obtain ⟨r, hr, hstores⟩ := h
  rw [← hstores.id]
  exact ht.fits hr

/-- An id that no interface has is reported as missing, unless no column holds it. -/
lemma load_of_missing {id : Int} (h : ∀ r ∈ t.interfaces, r.id ≠ id) :
    t.load key id = .error (if fitsColumn id then .agent (missing id) else .integerRange) := by
  have hfind : t.interface? id = none := by
    rw [interface?, List.find?_eq_none]
    intro r hr
    simpa using h r hr
  rw [load]
  cases hfits : fitsColumn id with
  | false => rfl
  | true =>
    rw [hfind]
    rfl

/-- Every row belongs to an interface that is stored. -/
lemma Sound.exists_holds (ht : t.Sound key) {r : InterfaceRow} (hr : r ∈ t.interfaces) :
    ∃ a, t.Holds key a ∧ r.Stores key a (t.peerColumns a.id) := by
  obtain ⟨a, hid, s, hs, hstores⟩ := ht.held r hr
  have hsr : s = r := ht.ordered.eq_of_id_eq hs hr (hstores.id.trans hid)
  subst hsr
  exact ⟨a, ⟨s, hs, hstores⟩, hstores⟩

lemma Sound.loadListed_eq (ht : t.Sound key) (hk : key.length = SecretBox.keySize)
    {r : InterfaceRow} (hr : r ∈ t.interfaces) :
    ∃ item, t.loadListed key r.id = .ok item ∧ item.interface.id = r.id ∧
      t.Holds key item.interface ∧ t.newest item.interface = .ok item.entry := by
  obtain ⟨a, ha, hstores⟩ := ht.exists_holds hr
  have hfits := ht.fits hr
  have hid := hstores.id
  rw [hid] at hfits ⊢
  obtain ⟨last, hlast, -⟩ := ht.newest_eq hfits
  refine ⟨⟨a, last⟩, ?_, rfl, ha, hlast⟩
  rw [loadListed, ht.load_eq hk ha]
  change (t.newest a >>= fun entry => _) = _
  rw [hlast]
  rfl

/-- The list holds exactly the stored interfaces, in the order of their rows, each with its newest
entry. -/
theorem Sound.listed_eq (ht : t.Sound key) (hk : key.length = SecretBox.keySize) :
    ∃ items, t.listed key = .ok items ∧
      (items.map fun item => item.interface.id).Pairwise (· < ·) ∧
      (∀ a, a ∈ items.map (fun item => item.interface) ↔ t.Holds key a) ∧
      ∀ item ∈ items, t.newest item.interface = .ok item.entry := by
  have hrows : ∀ rows : List InterfaceRow, (∀ r ∈ rows, r ∈ t.interfaces) →
      ∃ items : List Store.Listed, (rows.map (·.id)).mapM (t.loadListed key) = .ok items ∧
        items.map (fun item => item.interface.id) = rows.map (·.id) ∧
        ∀ item ∈ items, t.Holds key item.interface ∧
          t.newest item.interface = .ok item.entry := by
    intro rows hin
    induction rows with
    | nil => exact ⟨[], rfl, rfl, by simp⟩
    | cons r rows ih =>
      obtain ⟨item, hitem, hid, hitemHolds⟩ := ht.loadListed_eq hk (hin r List.mem_cons_self)
      obtain ⟨items, hitems, hids, hall⟩ := ih fun s hs => hin s (List.mem_cons_of_mem _ hs)
      refine ⟨item :: items, ?_, by simp [hid, hids], ?_⟩
      · rw [List.map_cons, List.mapM_cons, hitem, hitems]
        rfl
      · intro other hother
        rcases List.mem_cons.mp hother with rfl | hother
        · exact hitemHolds
        · exact hall other hother
  obtain ⟨items, hitems, hids, hall⟩ := hrows t.interfaces fun r hr => hr
  refine ⟨items, hitems, ?_, fun a => ⟨fun ha => ?_, fun ha => ?_⟩,
    fun item hitem => (hall item hitem).2⟩
  · rw [hids]
    exact List.pairwise_map.mpr ht.ordered
  · obtain ⟨item, hitem, rfl⟩ := List.mem_map.mp ha
    exact (hall item hitem).1
  · obtain ⟨r, hr, hstores⟩ := ha
    have hmem : a.id ∈ items.map fun item => item.interface.id := by
      rw [hids, ← hstores.id]
      exact List.mem_map_of_mem hr
    obtain ⟨item, hitem, hid⟩ := List.mem_map.mp hmem
    refine List.mem_map.mpr ⟨item, hitem, ?_⟩
    exact ht.holds_unique hk (hall item hitem).1 ⟨r, hr, hstores⟩ hid

lemma stores_names {r : InterfaceRow} {peers : List PeerColumns} (h : r.Stores key a peers) :
    r.deviceName = a.device.name ∧ r.netName = a.network.name := by
  obtain ⟨n₁, n₂, -, -, hcols⟩ := h.columns
  have hdevice : r.toInterfaceColumns.deviceName = a.device.name := by rw [hcols]; rfl
  have hnetwork : r.toInterfaceColumns.netName = a.network.name := by rw [hcols]; rfl
  exact ⟨hdevice, hnetwork⟩

lemma stores_addr {r : InterfaceRow} {peers : List PeerColumns} (h : r.Stores key a peers) :
    r.deviceAddr = a.device.addr.text := by
  obtain ⟨n₁, n₂, -, -, hcols⟩ := h.columns
  have haddr : r.toInterfaceColumns.deviceAddr = a.device.addr.text := by rw [hcols]; rfl
  exact haddr

/-- Names lead to the one interface that has them. -/
theorem Sound.loadNamed_eq (ht : t.Sound key) (hk : key.length = SecretBox.keySize)
    (h : t.Holds key a) : t.loadNamed key a.device.name a.network.name = .ok a := by
  have hload := ht.load_eq hk h
  obtain ⟨r, hr, hstores⟩ := h
  obtain ⟨hdevice, hnetwork⟩ := stores_names hstores
  rw [loadNamed]
  cases hfind : t.interfaceNamed? a.device.name a.network.name with
  | none =>
    rw [interfaceNamed?, List.find?_eq_none] at hfind
    have hnot := hfind r hr
    simp [hdevice, hnetwork] at hnot
  | some s =>
    have hs := List.mem_of_find?_eq_some hfind
    have hnames := List.find?_some hfind
    simp only [Bool.and_eq_true, decide_eq_true_eq] at hnames
    have hsr : s.id = r.id := by
      by_cases hid : s.id = r.id
      · exact hid
      · have hshared := ht.distinct s hs r hr hid .networkAndDeviceName
        simp [Identity.shared, hnames, hdevice, hnetwork] at hshared
    simp only [hsr, hstores.id, hload]

lemma Sound.loadNamed_error (ht : t.Sound key) {device network : String}
    (h : ∀ a, t.Holds key a → ¬ (a.device.name = device ∧ a.network.name = network)) :
    t.loadNamed key device network = .error (.agent (missingNamed device network)) := by
  have hfind : t.interfaceNamed? device network = none := by
    rw [interfaceNamed?, List.find?_eq_none]
    intro r hr
    obtain ⟨a, ha, hstores⟩ := ht.exists_holds hr
    obtain ⟨hdevice, hnetwork⟩ := stores_names hstores
    simpa [hdevice, hnetwork] using h a ha
  rw [loadNamed, hfind]

end MeshAgent.Tables
