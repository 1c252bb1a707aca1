import MeshAgent.Proofs.Home.Reachable
import MeshAgent.Proofs.Home.Status
import MeshAgent.Proofs.Store.Independence

/-!
# Updates in either order

Updates of two interfaces that have no identity in common can be made in either order: each ends in
the same way, and no question that can be asked of the store tells the orders apart. The one thing
that they could take away from each other is the last id of the log.
-/
namespace MeshAgent

namespace Tables

variable {key : Bytes} {t t' : Tables}

/-! ## What alike tables answer -/

lemma Sound.load_of_not_holds (ht : t.Sound key) {id : Int} (h : ∀ a, t.Holds key a → a.id ≠ id) :
    t.load key id = .error (if fitsColumn id then .agent (missing id) else .integerRange) := by
  refine load_of_missing fun r hr hid => ?_
  obtain ⟨a, ha, hstores⟩ := ht.exists_holds hr
  exact h a ha (hstores.id.symm.trans hid)

lemma Alike.load_eq (h : Alike key t t') (hk : key.length = SecretBox.keySize) (id : Int) :
    t'.load key id = t.load key id := by
  by_cases hstored : ∃ a, t.Holds key a ∧ a.id = id
  · obtain ⟨a, ha, rfl⟩ := hstored
    rw [h.left.load_eq hk ha, h.right.load_eq hk ((h.holds a).mpr ha)]
  · have hnone : ∀ a, t.Holds key a → a.id ≠ id := fun a ha hid => hstored ⟨a, ha, hid⟩
    rw [h.left.load_of_not_holds hnone,
      h.right.load_of_not_holds fun a ha => hnone a ((h.holds a).mp ha)]

lemma Alike.loadNamed_eq (h : Alike key t t') (hk : key.length = SecretBox.keySize)
    (device network : String) : t'.loadNamed key device network = t.loadNamed key device network := by
  by_cases hstored : ∃ a, t.Holds key a ∧ a.device.name = device ∧ a.network.name = network
  · obtain ⟨a, ha, rfl, rfl⟩ := hstored
    rw [h.left.loadNamed_eq hk ha, h.right.loadNamed_eq hk ((h.holds a).mpr ha)]
  · have hnone : ∀ a, t.Holds key a → ¬ (a.device.name = device ∧ a.network.name = network) :=
      fun a ha hnames => hstored ⟨a, ha, hnames⟩
    rw [h.left.loadNamed_error hnone,
      h.right.loadNamed_error fun a ha => hnone a ((h.holds a).mp ha)]

/-- The last mark on an interface is that of the last of its entries. -/
lemma lastOn_mark (t : Tables) (id : Int) :
    lastOn Prod.fst (t.log.map LogRow.mark) id =
      (t.entriesOf id).getLast?.map fun c => (c.interfaceId, decide (c.dirty = 0)) := by
  have hmarks : t.log.map LogRow.mark =
      (t.log.map (·.toLogColumns)).map fun c => (c.interfaceId, decide (c.dirty = 0)) := by
    rw [List.map_map]
    rfl
  rw [hmarks, lastOn_map]
  rfl

lemma Alike.newest_dirty (h : Alike key t t') (i : Interface) :
    (t'.newest i).map (fun last => last.all (·.dirty)) =
      (t.newest i).map fun last => last.all (·.dirty) := by
  cases hfits : fitsColumn i.id with
  | false => simp [newest, hfits, Except.map]
  | true =>
    obtain ⟨last, hlast, hmark⟩ := h.left.newest_mark hfits
    obtain ⟨last', hlast', hmark'⟩ := h.right.newest_mark hfits
    have hsame : (last'.map fun e => (i.id, !e.dirty)) = last.map fun e => (i.id, !e.dirty) := by
      rw [hmark', hmark, lastOn_mark, h.entries, lastOn_mark]
    rw [hlast, hlast']
    cases last with
    | none =>
      cases last' with
      | none => rfl
      | some e' => simp at hsame
    | some e =>
      cases last' with
      | none => simp at hsame
      | some e' => simpa [Except.map] using hsame

end Tables

namespace Site

variable {s : Store} {now : Int} {t t' : Tables} {w w' : Site}

/-! ## Sites between calls -/

/-- An open site with the given store, clock and tables. -/
structure Shows (w : Site) (s : Store) (now : Int) (t : Tables) : Prop where
  steady : w.Steady
  isOpen : w.IsOpen
  store : w.mounted.store = s
  clock : w.host.now = now
  tables : w.tables = t

lemma Shows.call (h : w.Shows s now t) (config : Config) (c : Call Interface) :
    ∃ e, (w.call config c).1 = (c.change config s now e).outcome t ∧
      (w.call config c).2.Shows s now ((c.change config s now e).after t) := by
  obtain ⟨hsteady, hopen, rfl, rfl, rfl⟩ := h
  obtain ⟨w', hexec, hsteady', hopen', hstore, -, hclock, htables⟩ :=
    exec_perform_spec hsteady hopen config c rfl
  refine ⟨w.host.entropy, ?_⟩
  rw [Site.call, hexec]
  exact ⟨rfl, hsteady', hopen', hstore, hclock, htables⟩

/-- A closed site with the given store and tables. -/
structure Shut (w : Site) (s : Store) (t : Tables) : Prop where
  steady : w.Steady
  closed : ¬ w.IsOpen
  store : w.mounted.store = s
  tables : w.tables = t

lemma Shut.call (h : w.Shut s t) (config : Config) (c : Call Interface) :
    (w.call config c).1 = .error (c.refusal s) ∧ (w.call config c).2.Shut s t := by
  obtain ⟨hsteady, hclosed, rfl, rfl⟩ := h
  obtain ⟨hexec, hsteady', htables⟩ := exec_perform_of_closed hsteady hclosed config c
  rw [Site.call, hexec]
  exact ⟨rfl, hsteady', hclosed, rfl, htables⟩

/-! ## Sites that answer alike -/

/-- Two sites give the same answers about interfaces, and have the same entries, but for their
numbers. -/
structure AnswersLike (w w' : Site) (config : Config) : Prop where
  interface : ∀ id, (w'.call config (.interface id)).1 = (w.call config (.interface id)).1
  named : ∀ device network, (w'.call config (.interfaceByDevice device network)).1 =
    (w.call config (.interfaceByDevice device network)).1
  needsApply : ∀ i, (w'.call config (.needsApply i)).1 = (w.call config (.needsApply i)).1
  entries : ∀ id, w'.tables.entriesOf id = w.tables.entriesOf id

lemma Shows.answersLike (h : w.Shows s now t) (h' : w'.Shows s now t')
    (halike : Tables.Alike s.key t t') (config : Config) : w.AnswersLike w' config := by
  have hk : s.key.length = SecretBox.keySize := h.store ▸ h.steady.key
  constructor
  case interface =>
    intro id
    obtain ⟨e, hcall, -⟩ := h.call config (.interface id)
    obtain ⟨e', hcall', -⟩ := h'.call config (.interface id)
    rw [hcall, hcall', Call.change, Call.change, Change.outcome_map, Change.outcome_map,
      Change.outcome_look, Change.outcome_look, halike.load_eq hk]
  case named =>
    intro device network
    obtain ⟨e, hcall, -⟩ := h.call config (.interfaceByDevice device network)
    obtain ⟨e', hcall', -⟩ := h'.call config (.interfaceByDevice device network)
    rw [hcall, hcall', Call.change, Call.change, Change.outcome_map, Change.outcome_map,
      Change.outcome_look, Change.outcome_look, halike.loadNamed_eq hk]
  case needsApply =>
    intro i
    obtain ⟨e, hcall, -⟩ := h.call config (.needsApply i)
    obtain ⟨e', hcall', -⟩ := h'.call config (.needsApply i)
    have hneeds : ∀ t : Tables, (Change.logged i fun last => return last.all (·.dirty)).outcome t =
        (t.newest i).map fun last => last.all (·.dirty) := by
      intro t
      rw [Change.outcome_logged]
      cases t.newest i <;> rfl
    rw [hcall, hcall', Call.change, Call.change, Change.outcome_map, Change.outcome_map, hneeds,
      hneeds, halike.newest_dirty]
  case entries =>
    intro id
    rw [h.tables, h'.tables, halike.entries]

lemma Shut.answersLike (h : w.Shut s t) (h' : w'.Shut s t) (config : Config) :
    w.AnswersLike w' config := by
  refine ⟨fun id => ?_, fun device network => ?_, fun i => ?_, fun id => ?_⟩
  · rw [(h.call config _).1, (h'.call config _).1]
  · rw [(h.call config _).1, (h'.call config _).1]
  · rw [(h.call config _).1, (h'.call config _).1]
  · rw [h.tables, h'.tables]

/-! ## Two calls -/

/-- Each of two calls ends in the same way whether it comes first or second, and the orders lead to
sites that answer alike. -/
structure Commute (w : Site) (config : Config) (A B : Call Interface) : Prop where
  first : SameOutcome (w.call config A).1 ((w.call config B).2.call config A).1
  second : SameOutcome (w.call config B).1 ((w.call config A).2.call config B).1
  answers : ((w.call config A).2.call config B).2.AnswersLike ((w.call config B).2.call config A).2
    config

/-- Two calls that would both succeed and add an entry find one id of the log left, so that the second
one is refused, whichever it is. -/
structure Contend (w : Site) (config : Config) (A B : Call Interface) : Prop where
  rivals : Call.Rivals w.tables.lastLogId A (w.call config A).1 B (w.call config B).1
  first : ∃ i, A.enters? = some i ∧
    ((w.call config B).2.call config A).1 = .error (.agent (Tables.logFull i))
  second : ∃ i, B.enters? = some i ∧
    ((w.call config A).2.call config B).1 = .error (.agent (Tables.logFull i))

variable {a b : Interface} {A B : Call Interface}

lemma Shut.commute (h : w.Shut s t) (config : Config) (A B : Call Interface) :
    w.Commute config A B := by
  obtain ⟨hA, hshutA⟩ := h.call config A
  obtain ⟨hB, hshutB⟩ := h.call config B
  obtain ⟨hAB, hshutAB⟩ := hshutA.call config B
  obtain ⟨hBA, hshutBA⟩ := hshutB.call config A
  refine ⟨?_, ?_, hshutAB.answersLike hshutBA config⟩
  · rw [hA, hBA]
    rfl
  · rw [hB, hAB]
    rfl

/-- Updates of two interfaces of an open site. -/
lemma Shows.commute_or_contend (h : w.Shows s now t) (ht : t.Sound s.key) (config : Config)
    (ha : t.Holds s.key a) (hb : t.Holds s.key b) (hne : a.id ≠ b.id) (hA : A.Updates a.id)
    (hB : B.Updates b.id) (hsep : Call.Separate a A b B) :
    w.Commute config A B ∨ w.Contend config A B := by
  have hk : s.key.length = SecretBox.keySize := h.store ▸ h.steady.key
  obtain ⟨eA, houtA, hshowsA⟩ := h.call config A
  obtain ⟨eB, houtB, hshowsB⟩ := h.call config B
  obtain ⟨eB', houtAB, hshowsAB⟩ := hshowsA.call config B
  obtain ⟨eA', houtBA, hshowsBA⟩ := hshowsB.call config A
  -- each call compared with itself before and after the other one
  have hafterB := Call.outcome_after_update config hk now eA eA' eB ht ha hb hne hA hB hsep rfl
  have hafterA := Call.outcome_after_update config hk now eB eB' eA ht hb ha hne.symm hB hA
    hsep.symm rfl
  rw [← houtA, ← houtBA, ← houtB] at hafterB
  rw [← houtB, ← houtAB, ← houtA] at hafterA
  by_cases hrivals : Call.Rivals t.lastLogId A (w.call config A).1 B (w.call config B).1
  · exact Or.inr ⟨by rw [h.tables]; exact hrivals, hafterB.1 hrivals, hafterA.1 hrivals.symm⟩
  · have hsameA := hafterB.2 hrivals
    have hsameB := hafterA.2 fun h => hrivals h.symm
    refine Or.inl ⟨hsameA, hsameB, hshowsAB.answersLike hshowsBA ?_ config⟩
    rw [houtA, houtBA] at hsameA
    rw [houtB, houtAB] at hsameB
    exact Call.alike_of_same config hk now eA eB eA' eB' ht ha hb hne hA hB rfl rfl hsameA hsameB

/-- Updates of two interfaces that have no identity in common, and are to write none in common, can be
made in either order, unless they contend for the last id of the log. -/
theorem updates_commute_or_contend (hw : Reachable w) (config : Config)
    (ha : w.tables.Holds w.mounted.store.key a) (hb : w.tables.Holds w.mounted.store.key b)
    (hne : a.id ≠ b.id) (hA : A.Updates a.id) (hB : B.Updates b.id)
    (hsep : Call.Separate a A b B) : w.Commute config A B ∨ w.Contend config A B := by
  obtain ⟨hsteady, hsound⟩ := hw.spec
  by_cases hopen : w.IsOpen
  · have hshows : w.Shows w.mounted.store w.host.now w.tables := ⟨hsteady, hopen, rfl, rfl, rfl⟩
    exact hshows.commute_or_contend hsound config ha hb hne hA hB hsep
  · have hshut : w.Shut w.mounted.store w.tables := ⟨hsteady, hopen, rfl, rfl⟩
    exact Or.inl (hshut.commute config A B)

/-- There are ids left for two more entries of the log. They are given out one by one and there are
nearly 2 ^ 63 of them, so that no log that has ever been written lacks them. -/
def HasRoom (w : Site) : Prop := w.tables.lastLogId + 2 ≤ maxInteger

/-- Updates of two interfaces that have no identity in common, and are to write none in common, can be
made in either order. -/
theorem updates_commute (hw : Reachable w) (hroom : w.HasRoom) (config : Config)
    (ha : w.tables.Holds w.mounted.store.key a) (hb : w.tables.Holds w.mounted.store.key b)
    (hne : a.id ≠ b.id) (hA : A.Updates a.id) (hB : B.Updates b.id)
    (hsep : Call.Separate a A b B) : w.Commute config A B := by
  refine (updates_commute_or_contend hw config ha hb hne hA hB hsep).resolve_right fun h => ?_
  have hleft := h.rivals.left
  rw [HasRoom] at hroom
  omega

/-! ## Two devices on one network -/

/-- A device in the office. -/
def laptop : Interface :=
  let addr : Address := .v4 ⟨0, Address.fullPrefix4⟩
  { id := 1, apiUrl := "", network := ⟨"", "office", addr⟩
    device := { id := "a", name := "laptop", addr, publicKey := List.replicate Key.size 0 }
    key := List.replicate Key.size 0, deviceToken := [] }

/-- Another device in the office. -/
def phone : Interface :=
  { laptop with
    id := 2
    device := { laptop.device with
      id := "b", name := "phone", publicKey := List.replicate Key.size 1 } }

/-- Both are stored. -/
def office : Site := ((blank.call {} (.ensure laptop)).2.call {} (.ensure phone)).2

lemma reachable_office : Reachable office := .call _ _ (.call _ _ reachable_blank)

lemma isOpen_office : office.IsOpen := by
  show office.mounted.connection.closed = false
  decide +kernel

lemma holds_office {a : Interface}
    (h : (office.call {} (.interface a.id)).1.toOption = some (.interface a)) :
    office.tables.Holds office.mounted.store.key a := by
  obtain ⟨hsteady, hsound⟩ := reachable_office.spec
  exact (has_iff hsteady isOpen_office hsound {} a).mp (eq_ok_of_toOption h)

lemma holds_laptop : office.tables.Holds office.mounted.store.key laptop :=
  holds_office (by decide +kernel)

lemma holds_phone : office.tables.Holds office.mounted.store.key phone :=
  holds_office (by decide +kernel)

/-- A failed step of the one and a new name of the other can come in either order. -/
theorem updates_commute_of_office :
    let renamed := { phone with device := { phone.device with name := "tablet" } }
    office.HasRoom ∧ office.Commute {} (.failed laptop "up" "no route") (.ensure renamed) := by
  intro renamed
  have hsep : Call.Separate laptop (.failed laptop "up" "no route") phone (.ensure renamed) := by
    rintro x (rfl | hx) y (rfl | hy) k
    · cases k <;> simp [Interface.Shares, laptop, phone, Key.size]
    · obtain rfl := Option.some.inj hy
      cases k <;> simp [Interface.Shares, laptop, phone, renamed, Key.size]
    · exact nomatch hx
    · exact nomatch hx
  have hrenamed : Call.Updates phone.id (.ensure renamed) := .ensure rfl
  have hempty : office.tables.lastLogId = 0 := by decide +kernel
  have hroom : office.HasRoom := by
    rw [HasRoom, hempty]
    decide
  exact ⟨hroom, updates_commute reachable_office hroom {} holds_laptop holds_phone (by decide)
    (.failed rfl) hrenamed hsep⟩

end Site

end MeshAgent
