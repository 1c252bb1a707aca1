import MeshAgent.Proofs.Home.Actions
import MeshAgent.Proofs.Home.Refinement

/-!
# Reported status

The newest entry of an interface is its current status. A block hands it to its callback, the list of
interfaces carries it, and the names of the interface lead to it. All three give the entry that was
answered when it was added, whatever names interfaces have had in the meantime.
-/
namespace MeshAgent

/-- The newest entry of an interface in a history. -/
def newestOn (es : List (Int × Entry)) (id : Int) : Option Entry :=
  (lastOn Prod.fst es id).map Prod.snd

namespace Tables

variable {key : Bytes} {t : Tables} {es : List (Int × Entry)} {a : Interface}

/-- The rows of the log are read as what was answered. -/
def Logs (t : Tables) (es : List (Int × Entry)) : Prop :=
  t.log.map LogRow.content = es.map LogRow.answered

lemma Logs.lastLog?_content (h : t.Logs es) (id : Int) :
    (t.lastLog? id).map LogRow.content = (lastOn Prod.fst es id).map LogRow.answered := by
  have hlast := congrArg (fun l => lastOn Prod.fst l id) h
  simp only [lastOn_map] at hlast
  exact hlast

/-- What is read of a row is what was answered for it. -/
lemma read_of_content {row : Option LogRow} {last : Option (Int × Entry)}
    (h : row.map LogRow.content = last.map LogRow.answered) :
    (match row with
      | none => .ok none
      | some r => (History.entryOfRow r).map some) = Except.ok (last.map Prod.snd) := by
  cases row with
  | none =>
    cases last with
    | none => rfl
    | some e => simp at h
  | some r =>
    cases last with
    | none => simp at h
    | some e =>
      have hread : History.entryOfRow r = .ok e.2 := congrArg Prod.snd (Option.some.inj h)
      simp only [hread]
      rfl

lemma Logs.newest_eq (h : t.Logs es) {i : Interface} (hi : fitsColumn i.id = true) :
    t.newest i = .ok (newestOn es i.id) := by
  rw [newest, hi]
  exact read_of_content (h.lastLog?_content i.id)

/-- The names of an interface lead to its entries: no other interface has them. -/
lemma Sound.lastLogNamed?_eq (ht : t.Sound key) (ha : t.Holds key a) :
    t.lastLogNamed? a.device.name a.network.name = t.lastLog? a.id := by
  obtain ⟨r, hr, hstores⟩ := ha
  obtain ⟨hdevice, hnetwork⟩ := stores_names hstores
  rw [lastLogNamed?, lastLog?]
  congr 1
  refine List.filter_congr fun e _ => ?_
  rw [Bool.eq_iff_iff, List.any_eq_true, decide_eq_true_iff]
  constructor
  · rintro ⟨s, hs, hnames⟩
    simp only [Bool.and_eq_true, decide_eq_true_eq] at hnames
    obtain ⟨⟨hid, hsdevice⟩, hsnetwork⟩ := hnames
    by_cases hne : s.id = r.id
    · rw [← hid, hne, hstores.id]
    · have hshared := ht.distinct s hs r hr hne .networkAndDeviceName
      simp [Identity.shared, hdevice, hnetwork, hsdevice, hsnetwork] at hshared
  · intro hid
    exact ⟨r, hr, by simp [hid, hstores.id, hdevice, hnetwork]⟩

lemma Sound.lastLogNamed?_eq_none (ht : t.Sound key) {device network : String}
    (h : ∀ a, t.Holds key a → ¬ (a.device.name = device ∧ a.network.name = network)) :
    t.lastLogNamed? device network = none := by
  have hnil : (t.log.filter fun e => t.interfaces.any fun i =>
      i.id = e.interfaceId && i.deviceName = device && i.netName = network) = [] := by
    rw [List.filter_eq_nil_iff]
    intro e _ hany
    obtain ⟨r, hr, hnames⟩ := List.any_eq_true.mp hany
    obtain ⟨a, ha, hstores⟩ := ht.exists_holds hr
    obtain ⟨hdevice, hnetwork⟩ := stores_names hstores
    simp only [Bool.and_eq_true, decide_eq_true_eq, hdevice, hnetwork] at hnames
    exact h a ha ⟨hnames.1.2, hnames.2⟩
  rw [lastLogNamed?, hnil]
  rfl

lemma Logs.entryNamed_eq (h : t.Logs es) (ht : t.Sound key) (ha : t.Holds key a) :
    t.entryNamed a.device.name a.network.name =
      match newestOn es a.id with
      | some e => .ok e
      | none => .error (.agent (missingLog a.device.name a.network.name)) := by
  have hnewest : t.newestNamed a.device.name a.network.name = .ok (newestOn es a.id) := by
    rw [newestNamed, ht.lastLogNamed?_eq ha]
    exact read_of_content (h.lastLog?_content a.id)
  rw [entryNamed, hnewest]
  cases newestOn es a.id <;> rfl

lemma Sound.entryNamed_error (ht : t.Sound key) {device network : String}
    (h : ∀ a, t.Holds key a → ¬ (a.device.name = device ∧ a.network.name = network)) :
    t.entryNamed device network = .error (.agent (missingLog device network)) := by
  rw [entryNamed, newestNamed, ht.lastLogNamed?_eq_none h]
  rfl

/-- An interface is loaded if and only if it is stored. -/
lemma Sound.load_eq_ok_iff (ht : t.Sound key) (hk : key.length = SecretBox.keySize) :
    t.load key a.id = .ok a ↔ t.Holds key a := by
  refine ⟨fun hload => ?_, ht.load_eq hk⟩
  by_cases hthere : ∃ r ∈ t.interfaces, r.id = a.id
  · obtain ⟨r, hr, hid⟩ := hthere
    obtain ⟨b, hb, hstores⟩ := ht.exists_holds hr
    have hsame : b.id = a.id := hstores.id.symm.trans hid
    rw [← hsame, ht.load_eq hk hb] at hload
    rwa [← Except.ok.inj hload]
  · rw [load_of_missing fun r hr hid => hthere ⟨r, hr, hid⟩] at hload
    simp at hload

end Tables

namespace Transaction

variable {α : Type}

/-- A block runs its callback on the newest entry, which it has looked up before. -/
lemma exec_logged_of_newest {i : Interface} {body : Handle → Option Entry → StoreM α}
    {s : StoreState} {last : Option Entry} (hs : s.Idle) (hc : s.connection.closed = false)
    (hlast : s.connection.durable.newest i = .ok last) :
    exec (Store.logged i body) s = exec (Store.logged i fun h _ => body h last) s := by
  obtain ⟨s₁, h₁, hat₁⟩ := exec_begin hs hc true
  have hfind := @finds_last s s.begun s.connection.durable s.entropy i
  rw [hlast] at hfind
  obtain ⟨s₂, h₂, -⟩ := hfind s₁ hat₁
  have hbody : ∀ f : Handle → Option Entry → StoreM α,
      exec (do
        let last ← History.last s.begun i
        let a ← f s.begun last
        commit s.begun
        return a) s₁ =
      exec (do
        let a ← f s.begun last
        commit s.begun
        return a) s₂ := fun f => exec_bind_ok h₂
  rw [Store.logged, Store.logged, Store.withLog, Store.withLog, scope, scope, exec_bind_ok h₁,
    exec_bind_ok h₁, exec_bind, exec_bind, exec_caught, exec_caught, hbody body,
    hbody fun h _ => body h last]

end Transaction

namespace Site

open Transaction

variable {α : Type} {w : Site} {es : List (Int × Entry)}

lemma withLog_of_newest (hw : w.Steady) (hopen : w.IsOpen) {i : Interface} {last : Option Entry}
    (hlast : w.tables.newest i = .ok last) (callback : Option Entry → Callback α) :
    w.withLog i callback = w.withLog i fun _ => callback last := by
  rw [withLog, withLog, exec_eq, exec_eq, exec_logged_of_newest hw.idle hopen hlast]

lemma withLog_done (hw : w.Steady) (hopen : w.IsOpen) {i : Interface} {last : Option Entry}
    (hlast : w.tables.newest i = .ok last) :
    (w.withLog i fun last => .done last).1 = .ok last := by
  obtain ⟨s, hs, -⟩ := withLog_spec hw hopen i fun last => .done last
  rw [hs, block, hlast]
  rfl

/-- The store answers with the interface `a` when it is asked for the interface with its id. -/
def Has (w : Site) (config : Config) (a : Interface) : Prop :=
  (w.call config (.interface a.id)).1 = .ok (.interface a)

lemma has_iff (hw : w.Steady) (hopen : w.IsOpen) (hsound : w.tables.Sound w.mounted.store.key)
    (config : Config) (a : Interface) :
    w.Has config a ↔ w.tables.Holds w.mounted.store.key a := by
  rw [Has, call_eq_of_isOpen hw hopen, Call.change, Change.outcome_map, Change.outcome_look,
    ← hsound.load_eq_ok_iff hw.key]
  cases w.tables.load w.mounted.store.key a.id <;> simp [Except.map]

/-- Every way of asking for the current status of an interface gives the entry that `status` has under
its id. -/
structure Reports (w : Site) (config : Config) (status : Int → Option Entry) : Prop where
  /-- It is the entry with the highest id among those of the interface. -/
  newest : ∀ a, w.Has config a → w.tables.IsNewest a.id (status a.id)
  /-- A callback gets it, and goes on as if it had known it before. -/
  handed : ∀ a, w.Has config a → ∀ i : Interface, i.id = a.id →
    (w.withLog i fun last => .done last).1 = .ok (status a.id) ∧
      ∀ (α : Type) (callback : Option Entry → Callback α),
        w.withLog i callback = w.withLog i fun _ => callback (status a.id)
  /-- The list has it beside the interface. -/
  listed : ∃ items, (w.call config .interfaces).1 = .ok (.listed items) ∧
    ∀ a, w.Has config a → ∀ item,
      item ∈ items ∧ item.interface.id = a.id ↔ item = ⟨a, status a.id⟩
  /-- The names of the interface lead to it. -/
  named : ∀ a, w.Has config a →
    (w.call config (.lastLogByDevice a.device.name a.network.name)).1 =
      match status a.id with
      | some e => .ok (.entry (some e))
      | none => .error (.agent (Tables.missingLog a.device.name a.network.name))
  /-- Names that no interface has lead to no entry. -/
  unnamed : ∀ device network,
    (∀ a, w.Has config a → ¬ (a.device.name = device ∧ a.network.name = network)) →
    (w.call config (.lastLogByDevice device network)).1 =
      .error (.agent (Tables.missingLog device network))

/-- A store whose log holds what was answered reports the last answer for each interface. -/
theorem reports_of_logs (hw : w.Steady) (hopen : w.IsOpen)
    (hsound : w.tables.Sound w.mounted.store.key) (hlogs : w.tables.Logs es) (config : Config) :
    w.Reports config (newestOn es) := by
  have hholds : ∀ a, w.Has config a ↔ w.tables.Holds w.mounted.store.key a :=
    has_iff hw hopen hsound config
  have hnewest : ∀ a, w.Has config a → ∀ i : Interface, i.id = a.id →
      w.tables.newest i = .ok (newestOn es a.id) := by
    intro a ha i hid
    obtain ⟨r, hr, hstores⟩ := (hholds a).mp ha
    rw [← hid]
    refine hlogs.newest_eq ?_
    rw [hid, ← hstores.id]
    exact hsound.fits hr
  constructor
  case newest =>
    intro a ha
    have hlast := hnewest a ha a rfl
    obtain ⟨r, hr, hstores⟩ := (hholds a).mp ha
    obtain ⟨last, hsome, his⟩ := hsound.newest_eq (hstores.id ▸ hsound.fits hr)
    rw [hlast] at hsome
    rwa [Except.ok.inj hsome]
  case handed =>
    intro a ha i hid
    exact ⟨withLog_done hw hopen (hnewest a ha i hid),
      fun α callback => withLog_of_newest hw hopen (hnewest a ha i hid) callback⟩
  case listed =>
    obtain ⟨items, hitems, hordered, hmem, hentries⟩ := hsound.listed_eq hw.key
    refine ⟨items, ?_, fun a ha item => ⟨?_, ?_⟩⟩
    · rw [call_eq_of_isOpen hw hopen, Call.change, Change.outcome_map, Change.outcome_look, hitems]
      rfl
    · rintro ⟨hin, hid⟩
      have hitem : w.tables.Holds w.mounted.store.key item.interface :=
        (hmem _).mp (List.mem_map_of_mem hin)
      have hsame := hsound.holds_unique hw.key hitem ((hholds a).mp ha) hid
      have hentry := hentries item hin
      rw [hsame, hnewest a ha a rfl] at hentry
      rw [Except.ok.inj hentry, ← hsame]
    · rintro rfl
      refine ⟨?_, rfl⟩
      obtain ⟨item, hin, hinterface⟩ := List.mem_map.mp ((hmem a).mpr ((hholds a).mp ha))
      have hentry := hentries item hin
      rw [hinterface, hnewest a ha a rfl] at hentry
      rw [Except.ok.inj hentry, ← hinterface]
      exact hin
  case named =>
    intro a ha
    rw [call_eq_of_isOpen hw hopen, Call.change, Change.outcome_map, Change.outcome_look,
      hlogs.entryNamed_eq hsound ((hholds a).mp ha)]
    cases newestOn es a.id <;> rfl
  case unnamed =>
    intro device network hnone
    rw [call_eq_of_isOpen hw hopen, Call.change, Change.outcome_map, Change.outcome_look,
      hsound.entryNamed_error fun a ha => hnone a ((hholds a).mpr ha)]
    rfl

/-- Whatever is done with a store that begins empty, as long as its tables outlast its connection: it
reports for each interface the entry that was answered last. Every reachable site comes about so. -/
theorem reports_newest_answers (hw : w.Opened) (hempty : w.tables = {}) {as : List Action}
    (hfile : w.mounted.place.isSome ∨ .event .reopen ∉ as) (hopen : (w.carryOut as).IsOpen)
    (config : Config) : (w.carryOut as).Reports config (newestOn (w.history as)) := by
  have hadvances := advances_carryOut (steady_of_opened hw).1 hfile
  have hbefore : w.tables.Sound w.mounted.store.key := hempty ▸ Tables.sound_empty _
  obtain ⟨rows, hlog, hread⟩ := hbefore.log_evolves hadvances.evolves
  have hlogs : (w.carryOut as).tables.Logs (w.history as) := by
    rw [Tables.Logs, hlog, hempty]
    exact hread
  exact reports_of_logs hadvances.steady hopen (hadvances.sound hbefore) hlogs config

/-- Two interfaces with an entry each: the first one gives its name up, and the second one takes it.
The name leads to the entry of the second one from then on. -/
theorem reports_newest_answers_of_renamed :
    let addr : Address := .v4 ⟨0, Address.fullPrefix4⟩
    let key : Bytes := List.replicate Key.size 0
    let device : Device := { id := "a", name := "x", addr, publicKey := key }
    let other : Device := { id := "b", name := "y", addr, publicKey := List.replicate Key.size 1 }
    let i : Interface :=
      { id := 1, apiUrl := "", network := ⟨"", "", addr⟩, device, key, deviceToken := [] }
    let j : Interface := { i with id := 2, device := other }
    let renamed : Interface := { j with device := { other with name := "x" } }
    let enter (k : Interface) (message : String) : Action := .withLog k fun _ =>
      .step (.append k "up" "up" false message) fun _ => .done ()
    let store (k : Interface) : Action := .event (.call {} (.ensure k))
    let as : List Action :=
      [store i, enter i "first", store j, enter j "second",
        store { i with device := { device with name := "z" } }, store renamed]
    ((blank.carryOut as).call {} (.lastLogByDevice "x" "")).1 =
      .ok (.entry (some
        { id := 2, seconds := 0, operation := .up, state := .up, dirty := false
          message := "second" })) := by
  intro addr key device other i j renamed enter store as
  have hopened : blank.Opened := opened_inMemory rfl _
  have hfile : blank.mounted.place.isSome ∨ .event .reopen ∉ as := .inr (by simp [as, store, enter])
  have hopen : (blank.carryOut as).mounted.connection.closed = false := by decide +kernel
  have hnewest : newestOn (blank.history as) 2 =
      some { id := 2, seconds := 0, operation := .up, state := .up, dirty := false
             message := "second" } := by decide +kernel
  have hanswer : ((blank.carryOut as).call {} (.interface 2)).1.toOption =
      some (.interface renamed) := by decide +kernel
  have hhas : (blank.carryOut as).Has {} renamed := by
    rw [Has]
    cases hcall : ((blank.carryOut as).call {} (.interface renamed.id)).1 with
    | error f =>
      rw [hcall] at hanswer
      simp [Except.toOption] at hanswer
    | ok answer =>
      rw [hcall] at hanswer
      rw [Option.some.inj hanswer]
  have hnamed := (reports_newest_answers hopened rfl hfile hopen {}).named renamed hhas
  rw [show renamed.id = 2 from rfl, hnewest] at hnamed
  exact hnamed

end Site

end MeshAgent
