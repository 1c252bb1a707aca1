import MeshAgent.Proofs.Home.Runs

/-!
# The store as a finite map

After every run a store answers like a finite map from ids to interfaces, which holds under each id
what was written under it last. Nothing else of the run can be seen in the answers.
-/
namespace MeshAgent.Site

variable {w : Site}

/-- The store answers like the map `m` from ids to interfaces. -/
structure Presents (w : Site) (config : Config) (m : Int → Option Interface) : Prop where
  /-- An id leads to the interface under it, or is reported as missing. -/
  interface : ∀ id, (w.call config (.interface id)).1 =
    match m id with
    | some a => .ok (.interface a)
    | none => .error (if fitsColumn id then .agent (Tables.missing id) else .integerRange)
  /-- The list holds exactly the interfaces of the map, in the order of their ids. -/
  interfaces : ∃ items, (w.call config .interfaces).1 = .ok (.listed items) ∧
    (items.map fun item => item.interface.id).Pairwise (· < ·) ∧
    ∀ a, a ∈ items.map (fun item => item.interface) ↔ m a.id = some a
  /-- Names lead to the interface that has them. -/
  named : ∀ a, m a.id = some a →
    (w.call config (.interfaceByDevice a.device.name a.network.name)).1 = .ok (.interface a)
  /-- Names that no interface has are reported as missing. -/
  unnamed : ∀ device network,
    (∀ a, m a.id = some a → ¬ (a.device.name = device ∧ a.network.name = network)) →
    (w.call config (.interfaceByDevice device network)).1 =
      .error (.agent (Tables.missingNamed device network))

lemma call_eq_of_isOpen (hw : w.Steady) (hopen : w.IsOpen) (config : Config)
    (c : Call Interface) :
    (w.call config c).1 =
      (c.change config w.mounted.store w.host.now w.host.entropy).outcome w.tables := by
  obtain ⟨w', hexec, -⟩ := exec_perform_spec hw hopen config c rfl
  rw [call, hexec]

lemma eq_ok_of_toOption {α : Type} {x : Except Failure α} {a : α} (h : x.toOption = some a) :
    x = .ok a := by
  cases x with
  | error f => simp [Except.toOption] at h
  | ok b => rw [Option.some.inj h]

variable {ws : List Interface} {rs : List (Int × Bool)}

/-- Tables that follow the writes present the last ones. -/
theorem Follows.presents (h : w.Follows ws rs) (hopen : w.IsOpen) (config : Config) :
    w.Presents config (lastOn Interface.id ws) := by
  have hk := h.steady.key
  have hsound := h.represents.sound
  have hholds := h.represents.holds
  constructor
  · intro id
    rw [call_eq_of_isOpen h.steady hopen, Call.change, Change.outcome_map, Change.outcome_look]
    cases hlast : lastOn Interface.id ws id with
    | none =>
      rw [Tables.load_of_missing]
      · rfl
      · intro r hr hid
        obtain ⟨a, ha, hstores⟩ := hsound.exists_holds hr
        have hlastA := (hholds a).mp ha
        rw [← hstores.id, hid, hlast] at hlastA
        simp at hlastA
    | some a =>
      obtain rfl := (mem_of_lastOn hlast).2
      rw [hsound.load_eq hk ((hholds a).mpr hlast)]
      rfl
  · obtain ⟨items, hitems, hordered, hmem, -⟩ := hsound.listed_eq hk
    refine ⟨items, ?_, hordered, fun a => (hmem a).trans (hholds a)⟩
    rw [call_eq_of_isOpen h.steady hopen, Call.change, Change.outcome_map, Change.outcome_look,
      hitems]
    rfl
  · intro a ha
    rw [call_eq_of_isOpen h.steady hopen, Call.change, Change.outcome_map, Change.outcome_look,
      hsound.loadNamed_eq hk ((hholds a).mpr ha)]
    rfl
  · intro device network hnone
    rw [call_eq_of_isOpen h.steady hopen, Call.change, Change.outcome_map, Change.outcome_look,
      hsound.loadNamed_error fun a ha => hnone a ((hholds a).mp ha)]
    rfl

/-- Whatever happens to a store that begins empty, as long as its tables outlast its connection: it
answers like the map of the last writes. -/
theorem presents_last_writes (hw : w.Opened) (hempty : w.tables = {}) (es : List Event)
    (hfile : w.mounted.place.isSome ∨ .reopen ∉ es) (hopen : (w.run es).IsOpen) (config : Config) :
    (w.run es).Presents config (lastOn Interface.id (w.writes es)) := by
  have hstart := follows_of_opened hw hempty
  obtain ⟨hfollows, -⟩ := hstart.run hfile
  exact hfollows.presents hopen config

/-- A store on a file that has just been made, under a key of zeros. -/
def filed : Site where
  mounted := { store := ⟨"/mesh.db", List.replicate SecretBox.keySize 0⟩, place := some ["mesh.db"] }
  host := Home.noteOpened "/mesh.db"
    { entropy := ⟨fun _ _ => 0, 0⟩, files := ({} : Files).put ["mesh.db"] (.database {}) }

lemma opened_filed : filed.Opened := by
  refine ⟨"/mesh.db", List.replicate SecretBox.keySize 0, { entropy := ⟨fun _ _ => 0, 0⟩ }, ?_⟩
  have hconnect : MeshAgent.exec (Home.connect "/mesh.db")
      { toSurroundings := { entropy := ⟨fun _ _ => 0, 0⟩ } } = (.ok (some ["mesh.db"]), _) := rfl
  exact Home.exec_openDatabase rfl hconnect

/-- An interface with twice the same peer and without a token, written over another one, is there
again after its file was closed and opened. -/
theorem presents_last_writes_of_reopened :
    let key : Bytes := List.replicate Key.size 0
    let addr : Address := .v4 ⟨0, Address.fullPrefix4⟩
    let device : Device := { id := "", name := "", addr, publicKey := key }
    let i : Interface :=
      { apiUrl := "", network := ⟨"", "", addr⟩, device, key, deviceToken := [1] }
    let j : Interface := { i with id := 1, deviceToken := [], peers := [device, device] }
    let es : List Event := [.call {} (.ensure i), .call {} (.ensure j), .close, .reopen]
    ((filed.run es).call {} (.interface 1)).1 = .ok (.interface j) := by
  intro key addr device i j es
  have hclosed : (filed.run [.call {} (.ensure i), .call {} (.ensure j), .close]).Steady :=
    ((follows_of_opened opened_filed rfl).run (.inl rfl)).1.steady
  have hopen : (filed.run es).IsOpen := (steady_of_opened (reopen_spec hclosed).1).2
  have hwrites : filed.writes es = [{ i with id := 1 }, j] := by decide +kernel
  have hinterface := (presents_last_writes opened_filed rfl es (.inl rfl) hopen {}).interface 1
  rw [hwrites] at hinterface
  exact hinterface

end MeshAgent.Site
