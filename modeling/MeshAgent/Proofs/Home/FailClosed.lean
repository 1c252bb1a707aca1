import MeshAgent.Proofs.Home.Refinement
import MeshAgent.Proofs.Store.Damaged

/-!
# Damaged databases

Whatever texts and blobs a database holds, a store that is open on it answers an interface only if
all of it can be read. Otherwise it fails at the first field that cannot be read; it never answers a
part, and it never leaves a row out.
-/
namespace MeshAgent.Site

open Stored

variable {w : Site}

/-- Reads of a store fail as a whole, at the right field, and for no other interface's damage. -/
structure FailsClosed (w : Site) : Prop where
  /-- What is answered for a row is what the fields of the row and of its peers say. -/
  answers : ∀ config, ∀ r ∈ w.tables.interfaces, ∀ a,
    (w.call config (.interface r.id)).1 = .ok (.interface a) ↔
      Says w.mounted.store.key r (w.tables.peersOf r.id) a
  /-- There is an answer if every field can be read. -/
  answered_iff : ∀ config, ∀ r ∈ w.tables.interfaces,
    (∃ a, (w.call config (.interface r.id)).1 = .ok (.interface a)) ↔
      ∀ f ∈ fields r (w.tables.peersOf r.id), f.refusal? w.mounted.store.key = none
  /-- Else the error is that of the first field that cannot be read. -/
  refuses : ∀ config, ∀ r ∈ w.tables.interfaces, ∀ f,
    (w.call config (.interface r.id)).1 = .error f ↔
      ∃ e, firstDamage? w.mounted.store.key (.queryInterface r.id)
        (fields r (w.tables.peersOf r.id)) = some e ∧ f = .agent e
  /-- The same is answered for the names of the row. -/
  named : ∀ config, ∀ r ∈ w.tables.interfaces,
    (w.call config (.interfaceByDevice r.deviceName r.netName)).1 =
      (w.call config (.interface r.id)).1
  /-- The list is refused exactly if an interface or its newest entry cannot be read. -/
  list_refused_iff : ∀ config, (∃ f, (w.call config .interfaces).1 = .error f) ↔
    ∃ r ∈ w.tables.interfaces, (∃ f, (w.call config (.interface r.id)).1 = .error f) ∨
      ∃ f row, w.tables.lastLog? r.id = some row ∧ History.entryOfRow row = .error f
  /-- A list that is answered says of every row what is answered for the row. -/
  list_complete : ∀ config items, (w.call config .interfaces).1 = .ok (.listed items) →
    List.Forall₂ (fun r item =>
      (w.call config (.interface r.id)).1 = .ok (.interface item.interface) ∧
        w.tables.newestOf r.id = .ok item.entry) w.tables.interfaces items
  /-- Damage to one interface changes nothing for the others. -/
  contained : ∀ (w' : Site) (i j : Int) (config : Config), w'.Steady → w'.IsOpen →
    w'.mounted.store.key = w.mounted.store.key → Tables.SameBut i w.tables w'.tables → j ≠ i →
    (w'.call config (.interface j)).1 = (w.call config (.interface j)).1

lemma call_interface (hw : w.Steady) (hopen : w.IsOpen) (config : Config) (id : Int) :
    (w.call config (.interface id)).1 =
      (w.tables.load w.mounted.store.key id).map .interface := by
  rw [call_eq_of_isOpen hw hopen, Call.change, Change.outcome_map, Change.outcome_look]

lemma call_interfaceByDevice (hw : w.Steady) (hopen : w.IsOpen) (config : Config)
    (device network : String) :
    (w.call config (.interfaceByDevice device network)).1 =
      (w.tables.loadNamed w.mounted.store.key device network).map .interface := by
  rw [call_eq_of_isOpen hw hopen, Call.change, Change.outcome_map, Change.outcome_look]

lemma call_interfaces (hw : w.Steady) (hopen : w.IsOpen) (config : Config) :
    (w.call config .interfaces).1 = (w.tables.listed w.mounted.store.key).map .listed := by
  rw [call_eq_of_isOpen hw hopen, Call.change, Change.outcome_map, Change.outcome_look]

variable {config : Config} {r : InterfaceRow}

lemma call_row (hw : w.Steady) (hopen : w.IsOpen) (ht : w.tables.Lawful)
    (hr : r ∈ w.tables.interfaces) :
    (w.call config (.interface r.id)).1 =
      (orFail (interface w.mounted.store.key r (w.tables.peersOf r.id))).map .interface := by
  rw [call_interface hw hopen, ht.load_eq hr]

lemma call_row_eq_ok (hw : w.Steady) (hopen : w.IsOpen) (ht : w.tables.Lawful)
    (hr : r ∈ w.tables.interfaces) {a : Interface} :
    (w.call config (.interface r.id)).1 = .ok (.interface a) ↔
      Says w.mounted.store.key r (w.tables.peersOf r.id) a := by
  rw [call_row hw hopen ht hr, ← interface_eq_ok]
  cases interface w.mounted.store.key r (w.tables.peersOf r.id) <;>
    simp [orFail, Except.map]

lemma call_row_eq_error (hw : w.Steady) (hopen : w.IsOpen) (ht : w.tables.Lawful)
    (hr : r ∈ w.tables.interfaces) {f : Failure} :
    (w.call config (.interface r.id)).1 = .error f ↔
      ∃ e, firstDamage? w.mounted.store.key (.queryInterface r.id)
        (fields r (w.tables.peersOf r.id)) = some e ∧ f = .agent e := by
  rw [call_row hw hopen ht hr]
  simp only [← failsAt_interface w.mounted.store.key r (w.tables.peersOf r.id) _]
  cases interface w.mounted.store.key r (w.tables.peersOf r.id) <;>
    simp [orFail, Except.map, eq_comm]

lemma call_row_answered_iff (hw : w.Steady) (hopen : w.IsOpen) (ht : w.tables.Lawful)
    (hr : r ∈ w.tables.interfaces) :
    (∃ a, (w.call config (.interface r.id)).1 = .ok (.interface a)) ↔
      ∀ f ∈ fields r (w.tables.peersOf r.id), f.refusal? w.mounted.store.key = none := by
  have hfails := failsAt_interface w.mounted.store.key r (w.tables.peersOf r.id)
  rw [← @firstDamage?_eq_none _ (.queryInterface r.id), call_row hw hopen ht hr]
  cases hread : interface w.mounted.store.key r (w.tables.peersOf r.id) with
  | error e =>
    rw [(hfails e).mp hread]
    simp [orFail, Except.map]
  | ok a =>
    refine iff_of_true ⟨a, rfl⟩ (Option.eq_none_iff_forall_ne_some.mpr fun e he => ?_)
    rw [(hfails e).mpr he] at hread
    simp at hread

/-- Whatever the database lets through into its columns, an open store fails closed on it. -/
theorem failsClosed (hw : w.Steady) (hopen : w.IsOpen) (ht : w.tables.Lawful) :
    w.FailsClosed := by
  constructor
  case answers => exact fun config r hr a => call_row_eq_ok hw hopen ht hr
  case answered_iff => exact fun config r hr => call_row_answered_iff hw hopen ht hr
  case refuses => exact fun config r hr f => call_row_eq_error hw hopen ht hr
  case named =>
    intro config r hr
    rw [call_interfaceByDevice hw hopen, ht.loadNamed_eq hr, call_interface hw hopen]
  case list_refused_iff =>
    intro config
    rw [call_interfaces hw hopen]
    simp only [Except.map_eq_error, call_interface hw hopen, ht.listed_fails_iff,
      Tables.newestOf_eq_error]
  case list_complete =>
    intro config items h
    rw [call_interfaces hw hopen, Except.map_eq_ok fun _ _ => Answer.listed.inj] at h
    simp only [call_interface hw hopen, Except.map_eq_ok fun _ _ => Answer.interface.inj]
    exact (ht.listed_eq_ok.mp h).imp fun r item hitem => ⟨hitem.interface, hitem.entry⟩
  case contained =>
    intro w' i j config hw' hopen' hkey hsame hj
    rw [call_interface hw' hopen', call_interface hw hopen, hkey, hsame.load_eq hj]

/-- A store without a file whose first interface has lost its device address, its public key and its
private key, and whose second one is in order. -/
def damaged : Site :=
  let zeros : Bytes := List.replicate Key.size 0
  let token : Bytes := Secret.blob zeros (List.replicate SecretBox.nonceSize 0) zeros
  let row : InterfaceRow :=
    { apiUrl := "", netId := "n", netName := "n", netCidr := "10.0.0.0/8", deviceId := "a"
      deviceName := "a", deviceEndpoint := "", deviceAddr := "?", publicKey := "?"
      listenPort := none, key := [], deviceToken := token, id := 1, createdAt := none
      updatedAt := none }
  let tables : Tables :=
    { interfaces :=
        [row,
          { row with
            deviceId := "b", deviceName := "b", deviceAddr := "10.0.0.2/8"
            publicKey := Key.format zeros, key := token, id := 2 }] }
  { blank with mounted := { blank.mounted with connection := { durable := tables } } }

lemma steady_damaged : damaged.Steady ∧ damaged.IsOpen :=
  ⟨⟨rfl, rfl, by simp [damaged, blank, inMemory], Or.inr rfl⟩, rfl⟩

lemma lawful_damaged : damaged.tables.Lawful where
  ordered := by
    rw [InterfaceRow.Ordered]
    decide +kernel
  fits := by decide +kernel
  distinct := by
    have hall : ∀ i ∈ Identity.all, ∀ r ∈ damaged.tables.interfaces,
        ∀ s ∈ damaged.tables.interfaces, r.id ≠ s.id →
          i.shared r.toInterfaceColumns s.toInterfaceColumns = false := by decide +kernel
    intro r hr s hs hne i
    exact hall i (by cases i <;> simp [Identity.all]) r hr s hs hne

/-- The first interface is refused at its device address, the list with it, and the second one is
answered. -/
theorem failsClosed_damaged :
    let cause : Fault :=
      { kind := .parse, reason := .addressText "?", activity := some .parseAddress
        entity := some "address" }
    let e : AgentError :=
      { kind := .parse, reason := .storedText "device address" "?"
        activity := some (.queryInterface 1), entity := some "device address", causes := [cause] }
    (damaged.Steady ∧ damaged.IsOpen ∧ damaged.tables.Lawful) ∧
      (damaged.call {} (.interface 1)).1 = .error (.agent e) ∧
      (∃ f, (damaged.call {} .interfaces).1 = .error f) ∧
      ∃ a, (damaged.call {} (.interface 2)).1 = .ok (.interface a) := by
  intro cause e
  have hcloses := failsClosed steady_damaged.1 steady_damaged.2 lawful_damaged
  have hfirst : (damaged.call {} (.interface 1)).1 = .error (.agent e) :=
    (hcloses.refuses {} damaged.tables.interfaces[0] (by decide +kernel) _).mpr
      ⟨e, by decide +kernel, rfl⟩
  refine ⟨⟨steady_damaged.1, steady_damaged.2, lawful_damaged⟩, hfirst, ?_, ?_⟩
  · exact (hcloses.list_refused_iff {}).mpr
      ⟨damaged.tables.interfaces[0], by decide +kernel, Or.inl ⟨_, hfirst⟩⟩
  · exact (hcloses.answered_iff {} damaged.tables.interfaces[1] (by decide +kernel)).mpr
      (by decide +kernel)

end MeshAgent.Site
