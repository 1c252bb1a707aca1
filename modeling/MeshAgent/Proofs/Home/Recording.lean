import Mathlib.Data.List.Sort
import MeshAgent.Proofs.Home.DamagedLog
import MeshAgent.Proofs.Home.Status
import MeshAgent.Proofs.Home.Storing

/-!
# Recording an answer of the control plane

A join and a refresh store an interface and add the entry about it in one transaction. The keys of the
answer are checked first. The interface is checked once more where it is stored, and this finds nothing
that is new but a wrong private key. What is written is told row by row.
-/
namespace MeshAgent

/-! ## Keys -/

namespace JoinResponse

/-- The keys of an answer under the names that errors give them, in the order of the checks. -/
def namedKeys (r : JoinResponse) : List (String × Bytes) :=
  ("device public_key", r.device.publicKey) ::
    r.peers.map fun p => ("peer " ++ p.id ++ " public_key", p.publicKey)

/-- The first key that has not the length of keys. -/
def wrongKey? (r : JoinResponse) : Option (String × Bytes) :=
  r.namedKeys.find? fun k => k.2.length ≠ Key.size

lemma checkKeys_eq (r : JoinResponse) (activity : Activity) :
    r.checkKeys activity =
      match r.wrongKey? with
      | none => .ok ()
      | some k => .error (.validation (.keyLength k.2.length) activity k.1) := by
  rw [checkKeys, Key.forM_peers_eq]
  exact Key.forM_check_eq r.namedKeys activity

end JoinResponse

/-- Behind the check of an answer, nothing but the private key can be wrong. -/
lemma Interface.wrongKey?_eq {i : Interface} {r : JoinResponse} (hdevice : i.device = r.device)
    (hpeers : i.peers = r.peers) (h : r.wrongKey? = none) :
    i.wrongKey? = if i.key.length = Key.size then none else some ("key", i.key) := by
  have hright := List.find?_eq_none.mp h
  by_cases hkey : i.key.length = Key.size
  · rw [if_pos hkey, wrongKey?, List.find?_eq_none, namedKeys, hdevice, hpeers]
    intro k hk
    obtain rfl | rfl | hk := by simpa only [List.mem_cons] using hk
    · simpa using hkey
    · exact hright ("device public_key", r.device.publicKey) List.mem_cons_self
    · exact hright k (List.mem_cons_of_mem _ hk)
  · rw [if_neg hkey, wrongKey?, namedKeys, List.find?_cons_of_pos (by simpa using hkey)]

lemma Interface.admissible_of_checked {i : Interface} {r : JoinResponse} {now : Int}
    (hdevice : i.device = r.device) (hpeers : i.peers = r.peers) (hkeys : r.wrongKey? = none)
    (hkey : i.key.length = Key.size) (hid : i.id ≤ maxInteger)
    (hport : fitsColumn i.listenPort = true) (hclock : fitsColumn (now.tdiv 1000000) = true) :
    i.Admissible now where
  keys := (wrongKey?_eq hdevice hpeers hkeys).trans (if_pos hkey)
  range := not_or.mpr ⟨Int.not_lt.mpr hid, fun hport' => nomatch hport.symm.trans hport'⟩
  clock := hclock

/-- The check of an answer finds nothing that the check of the interface does not find. -/
lemma JoinResponse.checkKeys_of_interface {i : Interface} {r : JoinResponse}
    {activity : Activity} (hdevice : i.device = r.device) (hpeers : i.peers = r.peers)
    (h : i.wrongKey? = none) : r.checkKeys activity = .ok () := by
  have hkeyed : i.WellKeyed := by
    rw [← @Interface.checkKeys_eq_ok i activity, i.checkKeys_eq, h]
  rw [checkKeys_eq_ok]
  exact ⟨hdevice ▸ hkeyed.publicKey, hpeers ▸ hkeyed.peerKeys⟩

/-- The interface has the device id, both names or the public key that an answer gives. -/
def JoinResponse.SharedBy (r : JoinResponse) (y : Interface) : Prop :=
  y.device.id = r.device.id ∨ (y.network.name = r.network.name ∧ y.device.name = r.device.name) ∨
    y.device.publicKey = r.device.publicKey

lemma Interface.exists_shares_iff {i y : Interface} {r : JoinResponse} (hdevice : i.device = r.device)
    (hnetwork : i.network = r.network) : (∃ k, y.Shares k i) ↔ r.SharedBy y := by
  rw [JoinResponse.SharedBy, ← hdevice, ← hnetwork]
  constructor
  · rintro ⟨_ | _ | _, hk⟩
    · exact .inr (.inr hk)
    · exact .inr (.inl hk)
    · exact .inl hk
  · rintro (hk | hk | hk)
    · exact ⟨.deviceId, hk⟩
    · exact ⟨.networkAndDeviceName, hk⟩
    · exact ⟨.publicKey, hk⟩

/-! ## Rows -/

/-- A row that is written stands between those with smaller ids and those with larger ones. -/
lemma InterfaceRow.Ordered.eq_around {rows rows' : List InterfaceRow} {row : InterfaceRow}
    (h : Ordered rows) (h' : Ordered rows')
    (hmem : ∀ r, r ∈ rows' ↔ r = row ∨ r ∈ rows ∧ r.id ≠ row.id) :
    rows' = (rows.filter fun r => r.id < row.id) ++ row :: rows.filter fun r => row.id < r.id := by
  have : Std.Irrefl fun r s : InterfaceRow => r.id < s.id := ⟨fun r => Int.lt_irrefl r.id⟩
  have : Std.Antisymm fun r s : InterfaceRow => r.id < s.id :=
    ⟨fun r s hrs hsr => absurd (Int.lt_trans hrs hsr) (Int.lt_irrefl r.id)⟩
  refine List.Pairwise.eq_of_mem_iff h' ?_ fun r => ?_
  · simp only [List.pairwise_append, List.pairwise_cons, List.mem_cons, List.mem_filter,
      decide_eq_true_eq]
    refine ⟨h.filter _, ⟨fun r hr => hr.2, h.filter _⟩, ?_⟩
    rintro r ⟨-, hr⟩ q (rfl | ⟨-, hq⟩)
    · exact hr
    · exact Int.lt_trans hr hq
  · have hne : r.id ≠ row.id ↔ r.id < row.id ∨ row.id < r.id := by omega
    rw [hmem, hne]
    simp only [List.mem_append, List.mem_cons, List.mem_filter, decide_eq_true_eq]
    tauto

namespace Tables

variable {s : Store} {t t' : Tables}

lemma peers_addPeers (t : Tables) (id : Int) (ps : List Device) :
    ∃ added, (t.addPeers id ps).peers = t.peers ++ added ∧ ∀ p ∈ added, p.interfaceId = id := by
  induction ps generalizing t with
  | nil => exact ⟨[], (List.append_nil _).symm, nofun⟩
  | cons d ps ih =>
    obtain ⟨added, hpeers, hadded⟩ := ih (t.addPeer id d.toPeerColumns)
    refine ⟨{ d.toPeerColumns with rowId := t.nextPeerId, interfaceId := id } :: added, ?_,
      List.forall_mem_cons.mpr ⟨rfl, hadded⟩⟩
    rw [List.append_cons]
    exact hpeers

/-- The peers of other interfaces stay, and all that are added are of this one. -/
lemma peers_replacePeers (t : Tables) (id : Int) (ps : List Device) :
    ∃ added, (t.replacePeers id ps).peers = (t.peers.filter fun p => p.interfaceId ≠ id) ++ added ∧
      ∀ p ∈ added, p.interfaceId = id := peers_addPeers (t.deletePeers id) id ps

/-- `t'` is what the tables `t` become when `a` is stored and the entry about it is added. -/
structure Recorded (key : Bytes) (t : Tables) (a : Interface) (seconds : Int)
    (operation : Operation) (state : State) (message : String) (t' : Tables) : Prop where
  holds : ∀ b, t'.Holds key b ↔ b = a ∨ b.id ≠ a.id ∧ t.Holds key b
  /-- One row has the id, and the others are those that were there. -/
  interfaces : ∃ row : InterfaceRow, row.id = a.id ∧ t'.interfaces =
    (t.interfaces.filter fun r => r.id < a.id) ++ row :: t.interfaces.filter fun r => a.id < r.id
  peers : ∃ added, t'.peers = (t.peers.filter fun p => p.interfaceId ≠ a.id) ++ added ∧
    ∀ p ∈ added, p.interfaceId = a.id
  log : t'.log = t.log ++
    [{ id := t.lastLogId + 1, seconds := some seconds, interfaceId := a.id
       operation := operation.name, state := state.name, dirty := 1, message }]

lemma Sound.recorded (hk : s.key.length = SecretBox.keySize) (ht : t.Sound s.key) (hc : t.Counted)
    {now : Int} {e : Entropy} {i a : Interface} {operation : Operation} {state : State}
    {message : String} (h : (Change.record s now e i operation state message).run t = .ok (a, t')) :
    a = { i with id := t.idOf i } ∧
      t.Recorded s.key a (now.fdiv 1000000) operation state message t' := by
  obtain ⟨id, t₁, entry, hstore, -, happend, rfl⟩ := Change.run_record_eq_ok h
  have hwrote := (ht.wrote hstore).1
  obtain ⟨-, -, -, rfl⟩ := Change.append_eq_ok happend
  have hholds := (hwrote.effect hk).holds
  have hlog := hwrote.log
  have hlast := hwrote.lastLogId
  obtain ⟨-, -, t₂, hup, rfl⟩ := Change.store_eq_ok hstore
  obtain ⟨row, rfl, -, hordered, hmem⟩ := ht.orderly.rows_upsert hup
  have hrows := ht.ordered.eq_around hordered hmem
  obtain ⟨hid, -, ht₂⟩ := upsertInterface_eq_ok hup
  have hsame : t₂.peers = t.peers := by rw [ht₂]
  obtain ⟨added, hpeers, hadded⟩ := peers_replacePeers t₂ row.id i.peers
  rw [hsame] at hpeers
  constructor
  -- the id that is given, or the next one, unless the ids are used up
  · rw [idFor_givenId (hc.last_eq ht)] at hid
    split at hid
    · exact nomatch hid
    · rw [Except.ok.inj hid]
  · constructor
    case holds => exact hholds
    case interfaces => exact ⟨row, rfl, (interfaces_replacePeers ..).trans hrows⟩
    case peers => exact ⟨added, hpeers, hadded⟩
    case log =>
      rw [hlog, hlast]
      rfl

lemma exists_clashes_iff {key : Bytes} {id : Int} {i : Interface} {r : JoinResponse}
    (hdevice : i.device = r.device) (hnetwork : i.network = r.network) :
    (∃ k, t.Clashes key id i k) ↔ ∃ y, t.Holds key y ∧ y.id ≠ id ∧ r.SharedBy y := by
  simp only [Clashes, ← Interface.exists_shares_iff hdevice hnetwork]
  constructor
  · rintro ⟨k, y, hy, hne, hk⟩
    exact ⟨y, hy, hne, k, hk⟩
  · rintro ⟨y, hy, hne, k, hk⟩
    exact ⟨k, y, hy, hne, hk⟩

/-- A write with its entry that finds the keys in order and a number for everything. -/
lemma Sound.records_of_admissible (ht : t.Sound s.key) (hc : t.Counted) {now : Int} {i : Interface}
    (hi : i.Admissible now) :
    (i.id ≤ 0 ∧ t.largestId = maxInteger → t.records now i =
      .error (.agent { kind := .storage, reason := .text "database or disk is full"
                       activity := some (.upsertInterface i.label) })) ∧
    (¬ (i.id ≤ 0 ∧ t.largestId = maxInteger) →
      ((∃ k, t.Clashes s.key i.id i k) → ∃ k, t.Clashes s.key i.id i k ∧ t.records now i =
        .error (.agent { kind := .conflict, reason := .alreadyInUse (some k.name)
                         activity := some (.upsertInterface i.label), entity := some k.name })) ∧
      ((∀ k, ¬ t.Clashes s.key i.id i k) → t.records now i = do
        History.checkTime (now.fdiv 1000000)
        if t.lastLogId = maxInteger then .error (.agent (logFull i))
        else .ok { i with id := t.idOf i })) := by
  obtain ⟨hfull, hfree⟩ := ht.stores_of_admissible hc hi
  refine ⟨fun h => ?_, fun h => ⟨fun hclash => ?_, fun hapart => ?_⟩⟩
  · rw [records, hfull h]
    rfl
  · obtain ⟨k, hk, hstores⟩ := (hfree h).1 hclash
    exact ⟨k, hk, by rw [records, hstores]; rfl⟩
  · rw [records, (hfree h).2 hapart]
    rfl

end Tables

namespace Change

variable {s : Store} {now : Int} {e : Entropy} {r : JoinResponse} {activity : Activity}
  {i a : Interface} {operation : Operation} {state : State} {message : String} {t t' : Tables}

/-- Records the interface that an answer describes, once the keys of the answer are checked. -/
def recordChecked (s : Store) (now : Int) (e : Entropy) (r : JoinResponse) (activity : Activity)
    (i : Interface) (operation : Operation) (state : State) (message : String) : Change Interface :=
  guarded (orFail (r.checkKeys activity)) fun _ => logged i fun _ =>
    record s now e i operation state message

lemma outcome_recordChecked (ht : t.Sound s.key) (hfits : fitsColumn i.id = true) :
    (recordChecked s now e r activity i operation state message).outcome t =
      orFail (r.checkKeys activity) >>= fun _ => t.records now i := by
  obtain ⟨last, hlast, -⟩ := ht.newest_eq hfits
  simp only [recordChecked, outcome_guarded, outcome_logged, outcome_record ht.butLog, hlast]
  rfl

lemma recordChecked_eq_ok (hk : s.key.length = SecretBox.keySize) (ht : t.Sound s.key)
    (hc : t.Counted)
    (h : (recordChecked s now e r activity i operation state message).run t = .ok (a, t')) :
    a = { i with id := t.idOf i } ∧
      t.Recorded s.key a (now.fdiv 1000000) operation state message t' := by
  obtain ⟨-, -, hlogged⟩ := run_guarded_eq_ok h
  obtain ⟨-, -, hrecord⟩ := run_logged_eq_ok hlogged
  exact ht.recorded hk hc hrecord

end Change

namespace Site

variable {w w' : Site} {r : JoinResponse} {activity : Activity} {i : Interface} {id : Int}
  {operation : Operation} {state : State} {message : String} {outcome : Except Failure Answer}

/-- What recording the answer `r` comes to on an open store, where `i` is the interface that the
answer describes and `id` the id that it is to be stored under. The cases are tried in this order, and
one of them applies. -/
structure Recording (w : Site) (r : JoinResponse) (activity : Activity) (i : Interface) (id : Int)
    (operation : Operation) (state : State) (message : String) (outcome : Except Failure Answer)
    (w' : Site) : Prop where
  /-- The error names the first key of the answer that is wrong. -/
  wrongKey : ∀ name bytes, r.wrongKey? = some (name, bytes) →
    outcome = .error (.agent (.validation (.keyLength bytes.length) activity name))
  privateKey : r.wrongKey? = none → i.key.length ≠ Key.size → outcome =
    .error (.agent (.validation (.keyLength i.key.length) (.upsertInterface i.label) "key"))
  outOfRange : i.wrongKey? = none →
    i.OutOfRange ∨ fitsColumn (w.host.now.tdiv 1000000) = false → outcome = .error .integerRange
  usedUp : i.Admissible w.host.now → i.id ≤ 0 ∧ w.tables.largestId = maxInteger → outcome =
    .error (.agent { kind := .storage, reason := .text "database or disk is full"
                     activity := some (.upsertInterface i.label) })
  /-- The error names an identity that another interface has. -/
  clash : i.Admissible w.host.now → ¬ (i.id ≤ 0 ∧ w.tables.largestId = maxInteger) →
    (∃ k, w.tables.Clashes w.mounted.store.key i.id i k) →
    ∃ k, w.tables.Clashes w.mounted.store.key i.id i k ∧ outcome =
      .error (.agent { kind := .conflict, reason := .alreadyInUse (some k.name)
                       activity := some (.upsertInterface i.label), entity := some k.name })
  /-- The clock is asked for a date only after the interface has been written. -/
  entered : i.Admissible w.host.now → ¬ (i.id ≤ 0 ∧ w.tables.largestId = maxInteger) →
    (∀ k, ¬ w.tables.Clashes w.mounted.store.key i.id i k) → outcome =
    ((History.checkTime (w.host.now.fdiv 1000000)).bind fun _ =>
      if w.tables.lastLogId = maxInteger then .error (.agent (Tables.logFull i))
      else .ok (.interface { i with id }))
  recorded : ∀ answer, outcome = .ok answer → answer = .interface { i with id } ∧
    (∀ config, w'.Has config { i with id }) ∧
    w.tables.Recorded w.mounted.store.key { i with id } (w.host.now.fdiv 1000000) operation state
      message w'.tables
  failed : ∀ f, outcome = .error f → w'.tables = w.tables

/-- Behind keys that are right, an agent error is one of the database. -/
lemma Recording.kind_of_error (h : w.Recording r activity i id operation state message outcome w')
    (hkeys : i.wrongKey? = none) {e : AgentError} (he : outcome = .error (.agent e)) :
    e.kind = .storage ∨
      e.kind = .conflict ∧ ∃ k, w.tables.Clashes w.mounted.store.key i.id i k := by
  -- the cases of the recording in their order; a number out of range and a date are no agent errors
  by_cases hrange : i.OutOfRange ∨ fitsColumn (w.host.now.tdiv 1000000) = false
  · rw [h.outOfRange hkeys hrange] at he
    exact nomatch he
  · rw [not_or, Bool.not_eq_false] at hrange
    have hi : i.Admissible w.host.now := ⟨hkeys, hrange.1, hrange.2⟩
    by_cases hused : i.id ≤ 0 ∧ w.tables.largestId = maxInteger
    · rw [h.usedUp hi hused] at he
      cases he
      exact .inl rfl
    · by_cases hclash : ∃ k, w.tables.Clashes w.mounted.store.key i.id i k
      · obtain ⟨k, -, hk⟩ := h.clash hi hused hclash
        rw [hk] at he
        cases he
        exact .inr ⟨rfl, hclash⟩
      · rw [h.entered hi hused (not_exists.mp hclash)] at he
        rcases History.checkTime_cases (w.host.now.fdiv 1000000) with ⟨-, hok⟩ | ⟨-, f, hf, hcalendar⟩
        · rw [hok] at he
          by_cases hfull : w.tables.lastLogId = maxInteger
          · simp only [Except.bind, if_pos hfull] at he
            cases he
            exact .inl rfl
          · simp only [Except.bind, if_neg hfull] at he
            exact nomatch he
        · rw [hf] at he
          cases he
          exact nomatch hcalendar

/-- A value is invalid exactly if a key is wrong. -/
lemma Recording.invalid_iff (h : w.Recording r activity i id operation state message outcome w')
    (hdevice : i.device = r.device) (hpeers : i.peers = r.peers) :
    (∃ e, outcome = .error (.agent e) ∧ e.kind = .validation) ↔
      r.wrongKey? ≠ none ∨ i.key.length ≠ Key.size := by
  constructor
  · rintro ⟨e, he, hkind⟩
    by_contra hkeys
    rw [not_or, not_not, not_not] at hkeys
    have hright := Interface.wrongKey?_eq hdevice hpeers hkeys.1
    rw [if_pos hkeys.2] at hright
    rcases h.kind_of_error hright he with hstorage | ⟨hconflict, -⟩
    · exact nomatch hkind.symm.trans hstorage
    · exact nomatch hkind.symm.trans hconflict
  · intro hwrong
    cases hkeys : r.wrongKey? with
    | some k => exact ⟨_, h.wrongKey k.1 k.2 hkeys, rfl⟩
    | none => exact ⟨_, h.privateKey hkeys (hwrong.resolve_left (not_not_intro hkeys)), rfl⟩

/-- With everything else in order, there is a conflict exactly if an identity is taken. -/
lemma Recording.conflict_iff (h : w.Recording r activity i id operation state message outcome w')
    (hi : i.Admissible w.host.now) (hfree : ¬ (i.id ≤ 0 ∧ w.tables.largestId = maxInteger)) :
    (∃ e, outcome = .error (.agent e) ∧ e.kind = .conflict) ↔
      ∃ k, w.tables.Clashes w.mounted.store.key i.id i k := by
  constructor
  · rintro ⟨e, he, hkind⟩
    rcases h.kind_of_error hi.keys he with hstorage | ⟨-, hclash⟩
    · exact nomatch hkind.symm.trans hstorage
    · exact hclash
  · intro hclash
    obtain ⟨k, -, hk⟩ := h.clash hi hfree hclash
    exact ⟨_, hk, rfl⟩

/-- An open store records an answer for a call that is such a change. -/
theorem exec_recording (hw : Reachable w) (hopen : w.IsOpen) (config : Config) {c : Call Interface}
    (hchange : c.change config w.mounted.store w.host.now w.host.entropy =
      Answer.interface <$> Change.recordChecked w.mounted.store w.host.now w.host.entropy r activity i
        operation state message)
    (hkept : ∀ j, c ≠ .ensure j) (hdevice : i.device = r.device) (hpeers : i.peers = r.peers)
    (hfits : fitsColumn i.id = true) :
    ∃ outcome w', w.exec (c.perform config) = (.ok (outcome, c.iface?), w') ∧
      w.Recording r activity i (w.tables.idOf i) operation state message outcome w' := by
  obtain ⟨hsteady, hsound⟩ := hw.spec
  obtain ⟨w', hexec, hsteady', hopen', hstore, -, -, htables⟩ :=
    exec_perform_spec hsteady hopen config c rfl
  have hsound' : w'.tables.Sound w'.mounted.store.key := by
    rw [htables, hstore]
    exact (c.effect config hsteady.key w.host.now w.host.entropy hsound).sound
  rw [Transaction.heldAfter_of_ne hkept, hchange] at hexec
  rw [hchange] at htables
  have houtcome : (Change.recordChecked w.mounted.store w.host.now w.host.entropy r activity i
        operation state message).outcome w.tables =
      orFail (r.checkKeys activity) >>= fun _ => w.tables.records w.host.now i :=
    Change.outcome_recordChecked hsound hfits
  refine ⟨_, w', hexec, ?_⟩
  have hdecided := @Tables.Sound.records_of_admissible _ _ hsound hw.counted w.host.now i
  have hchecked : i.wrongKey? = none → orFail (r.checkKeys activity) = .ok () :=
    fun hkeys => orFail_eq_ok.mpr (r.checkKeys_of_interface hdevice hpeers hkeys)
  constructor
  case wrongKey =>
    intro name bytes hkey
    rw [Change.outcome_map, houtcome, r.checkKeys_eq, hkey]
    rfl
  case privateKey =>
    intro hkeys hkey
    rw [Change.outcome_map, houtcome, r.checkKeys_eq, hkeys, Tables.records, Tables.stores,
      i.checkKeys_eq, Interface.wrongKey?_eq hdevice hpeers hkeys, if_neg hkey]
    rfl
  case outOfRange =>
    intro hkeys hrange
    rw [Change.outcome_map, houtcome, hchecked hkeys, Tables.records, Tables.stores, i.checkKeys_eq,
      hkeys, Interface.any_numbers_iff.mpr hrange]
    rfl
  case usedUp =>
    intro hi hused
    rw [Change.outcome_map, houtcome, hchecked hi.keys]
    exact congrArg (Except.map Answer.interface) ((hdecided hi).1 hused)
  case clash =>
    intro hi hfree hclash
    obtain ⟨k, hk, hrecords⟩ := ((hdecided hi).2 hfree).1 hclash
    refine ⟨k, hk, ?_⟩
    rw [Change.outcome_map, houtcome, hchecked hi.keys]
    exact congrArg (Except.map Answer.interface) hrecords
  case entered =>
    intro hi hfree hapart
    rw [Change.outcome_map, houtcome, hchecked hi.keys]
    refine (congrArg (Except.map Answer.interface) (((hdecided hi).2 hfree).2 hapart)).trans ?_
    cases History.checkTime (w.host.now.fdiv 1000000) with
    | error f => rfl
    | ok u =>
      simp only [bind, Except.bind]
      split <;> rfl
  case recorded =>
    intro answer hanswer
    obtain ⟨a, hrun, rfl⟩ := Change.run_map_eq_ok (Change.outcome_eq_ok hanswer)
    obtain ⟨rfl, hrecorded⟩ := Change.recordChecked_eq_ok hsteady.key hsound hw.counted hrun
    rw [← htables] at hrecorded
    refine ⟨rfl, fun config => ?_, hrecorded⟩
    rw [has_iff hsteady' hopen' hsound', hstore]
    exact (hrecorded.holds _).mpr (.inl rfl)
  case failed =>
    intro f hf
    rw [htables, Change.after_of_outcome_error hf]

/-- What recording an answer comes to on a closed store. -/
structure Refused (w : Site) (r : JoinResponse) (activity : Activity)
    (outcome : Except Failure Answer) (w' : Site) : Prop where
  wrongKey : ∀ name bytes, r.wrongKey? = some (name, bytes) →
    outcome = .error (.agent (.validation (.keyLength bytes.length) activity name))
  closed : r.wrongKey? = none →
    outcome = .error (.agent (Transaction.closedError w.mounted.store))
  tables : w'.tables = w.tables

lemma exec_refused (hw : w.Steady) (hclosed : ¬ w.IsOpen) (config : Config) {c : Call Interface}
    (hrefusal : ∀ f, c.refusedFor f = f.afterCheck (r.checkKeys activity)) :
    ∃ outcome w', w.exec (c.perform config) = (.ok (outcome, c.iface?), w') ∧
      w.Refused r activity outcome w' := by
  obtain ⟨hexec, -, htables⟩ := exec_perform_of_closed hw hclosed config c
  rw [Call.refusal, hrefusal, r.checkKeys_eq] at hexec
  refine ⟨_, _, hexec, ?_⟩
  constructor
  case wrongKey =>
    intro name bytes hkey
    rw [hkey]
    rfl
  case closed =>
    intro hkeys
    rw [hkeys]
    rfl
  case tables => exact htables

end Site

end MeshAgent
