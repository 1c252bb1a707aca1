import MeshAgent.Proofs.Home.Actions
import MeshAgent.Proofs.Store.Verdicts

/-!
# Storing an interface

How storing an interface ends can be told beforehand from the interface and from what is stored. There
are four reasons for a failure, and they count in a fixed order: a key of a wrong length, a number that
no column holds, ids that are used up, and an identity that another interface has. Without one of them
the interface is stored, under the id that it has or the one above the largest id that is stored.
-/
namespace MeshAgent

/-! ## Checks -/

namespace Interface

/-- The keys of an interface under the names that errors give them, in the order of the checks. -/
def namedKeys (i : Interface) : List (String × Bytes) :=
  ("key", i.key) :: ("public_key", i.device.publicKey) ::
    i.peers.map fun p => ("peer " ++ p.id ++ " public_key", p.publicKey)

/-- The first key that has not the length of keys. -/
def wrongKey? (i : Interface) : Option (String × Bytes) :=
  i.namedKeys.find? fun k => k.2.length ≠ Key.size

/-- No column holds the id under which the interface is to be stored, or its port. -/
def OutOfRange (i : Interface) : Prop := maxInteger < i.id ∨ fitsColumn i.listenPort = false

/-- The interface passes the checks that come before the database is asked, at the time `now`. -/
structure Admissible (i : Interface) (now : Int) : Prop where
  keys : i.wrongKey? = none
  range : ¬ i.OutOfRange
  clock : fitsColumn (now.tdiv 1000000) = true

end Interface

lemma Key.forM_check_eq (keys : List (String × Bytes)) (activity : Activity) :
    (keys.forM fun k => check k.2 activity k.1) =
      match keys.find? fun k => k.2.length ≠ size with
      | none => .ok ()
      | some k => .error (.validation (.keyLength k.2.length) activity k.1) := by
  induction keys with
  | nil => rfl
  | cons k keys ih =>
    by_cases hk : k.2.length = size
    · rw [List.find?_cons_of_neg (by simpa using hk), ← ih]
      change (check k.2 activity k.1 >>= fun _ => _) = _
      rw [check_eq_ok.mpr hk]
      rfl
    · rw [List.find?_cons_of_pos (by simpa using hk)]
      change (check k.2 activity k.1 >>= fun _ => _) = _
      rw [check, if_neg hk]
      rfl

lemma Key.forM_peers_eq (ps : List Device) (activity : Activity) :
    (ps.forM fun p => check p.publicKey activity ("peer " ++ p.id ++ " public_key")) =
      (ps.map fun p => ("peer " ++ p.id ++ " public_key", p.publicKey)).forM fun k =>
        check k.2 activity k.1 := by
  induction ps with
  | nil => rfl
  | cons p ps ih => exact congrArg (check p.publicKey activity _ >>= ·) (funext fun _ => ih)

lemma Interface.checkKeys_eq (i : Interface) (activity : Activity) :
    i.checkKeys activity =
      match i.wrongKey? with
      | none => .ok ()
      | some k => .error (.validation (.keyLength k.2.length) activity k.1) := by
  rw [wrongKey?, ← Key.forM_check_eq, checkKeys, Key.forM_peers_eq]
  rfl

lemma Interface.any_numbers_iff {i : Interface} {now : Int} :
    ((i.numbers now).any fun n => !fitsColumn n) = true ↔
      i.OutOfRange ∨ fitsColumn (now.tdiv 1000000) = false := by
  have hid : (∃ n ∈ i.givenId.toList, fitsColumn n = false) ↔ maxInteger < i.id := by
    have hnot : ∀ n, fitsColumn n = false ↔ n + 1 < -maxInteger ∨ maxInteger < n := by
      intro n
      rw [← Bool.not_eq_true, fitsColumn_iff]
      omega
    by_cases hpos : 0 < i.id
    · have hgiven : i.givenId = some i.id := if_pos hpos
      simp only [hgiven, Option.toList_some, List.mem_singleton, exists_eq_left, hnot, maxInteger]
      omega
    · have hgiven : i.givenId = none := if_neg hpos
      refine iff_of_false (by simp [hgiven]) ?_
      rw [maxInteger]
      omega
  simp only [numbers, OutOfRange, List.any_append, Bool.or_eq_true, List.any_eq_true, hid,
    Bool.not_eq_true', List.mem_cons, List.not_mem_nil, or_false, exists_eq_or_imp,
    exists_eq_left]
  tauto

/-! ## Ids -/

namespace Tables

variable {s : Store} {key : Bytes} {t t' : Tables} {es : List (Int × Entry)}

/-- The largest id of an interface that is stored, or 0. -/
def largestId (t : Tables) : Int := (t.interfaces.map (·.id)).max?.getD 0

/-- The id that an interface is to be stored under. -/
def idOf (t : Tables) (i : Interface) : Int := if 0 < i.id then i.id else t.largestId + 1

/-- The last id that was given is in use. -/
def Counted (t : Tables) : Prop :=
  t.lastInterfaceId = 0 ∨ ∃ r ∈ t.interfaces, r.id = t.lastInterfaceId

lemma Counted.stored (hc : t.Counted) (ht : t.Sound s.key) {now : Int} {e : Entropy} {i : Interface}
    {id : Int} (h : (Change.store s now e i).run t = .ok (id, t')) : t'.Counted := by
  obtain ⟨-, -, t₁, hup, rfl⟩ := Change.store_eq_ok h
  obtain ⟨row, hrow, -, -, hmem⟩ := ht.orderly.rows_upsert hup
  obtain ⟨-, -, ht₁⟩ := upsertInterface_eq_ok hup
  have hlast : t₁.lastInterfaceId = max t.lastInterfaceId id := by rw [ht₁]
  rw [Counted, interfaces_replacePeers, lastInterfaceId_replacePeers, hlast]
  have hwritten : ∃ r ∈ t₁.interfaces, r.id = id := ⟨row, (hmem row).mpr (.inl rfl), hrow⟩
  rcases Int.le_total t.lastInterfaceId id with hle | hle
  · rw [Int.max_eq_right hle]
    exact .inr hwritten
  · rw [Int.max_eq_left hle]
    refine hc.imp_right fun ⟨r, hr, hid⟩ => ?_
    by_cases hsame : r.id = id
    · rwa [← hid, hsame]
    · exact ⟨r, (hmem r).mpr (.inr ⟨hr, hsame⟩), hid⟩

lemma Counted.entered (hc : t.Counted) {now : Int} {i : Interface} {operation : Operation}
    {state : State} {dirty : Bool} {message : String} {entry : Entry}
    (h : (Change.append now i operation state dirty message).run t = .ok (entry, t')) :
    t'.Counted := by
  obtain ⟨-, -, -, rfl⟩ := Change.append_eq_ok h
  exact hc

lemma Counted.evolves (hc : t.Counted) (ht : t.Sound s.key) (h : t.Evolves s es t') :
    t'.Counted := by
  induction h with
  | refl => exact hc
  | stored hevolves hrun ih => exact ih.stored (ht.evolves hevolves) hrun
  | entered _ _ hrun ih => exact ih.entered hrun

/-- The last id that was given is the largest one that is stored. -/
lemma Counted.last_eq (hc : t.Counted) (ht : t.Sound key) : t.lastInterfaceId = t.largestId := by
  rcases hc with hzero | ⟨r, hr, hid⟩
  · have hnone : t.interfaces = [] := by
      refine List.eq_nil_iff_forall_not_mem.mpr fun r hr => ?_
      have hpos := ht.pos r hr
      have hle := ht.le_last r hr
      omega
    rw [largestId, hnone, hzero]
    rfl
  · have hmax : (t.interfaces.map (·.id)).max? = some t.lastInterfaceId := by
      refine List.max?_eq_some_iff.mpr ⟨List.mem_map.mpr ⟨r, hr, hid⟩, fun m hm => ?_⟩
      obtain ⟨q, hq, rfl⟩ := List.mem_map.mp hm
      exact ht.le_last q hq
    rw [largestId, hmax]
    rfl

/-- The id is free: a given one is taken as it is, a new one stands above all others. -/
lemma idFor_givenId (hlast : t.lastInterfaceId = t.largestId) (i : Interface) :
    t.idFor i.givenId =
      if i.id ≤ 0 ∧ t.largestId = maxInteger then .error .idsExhausted else .ok (t.idOf i) := by
  by_cases hpos : 0 < i.id
  · rw [Interface.givenId, idOf, if_pos hpos, if_pos hpos, if_neg fun h => absurd h.1 (by omega)]
    rfl
  · have hle : i.id ≤ 0 := by omega
    simp only [Interface.givenId, idOf, if_neg hpos, idFor, hlast, hle, true_and]

lemma le_largestId {r : InterfaceRow} (hr : r ∈ t.interfaces) : r.id ≤ t.largestId := by
  have hmem : r.id ∈ t.interfaces.map (·.id) := List.mem_map.mpr ⟨r, hr, rfl⟩
  cases hmax : (t.interfaces.map (·.id)).max? with
  | none => rw [List.max?_eq_none_iff.mp hmax] at hmem; cases hmem
  | some n =>
    rw [largestId, hmax]
    exact (List.max?_eq_some_iff.mp hmax).2 _ hmem

/-- Which row is the own one does not depend on whether the id is given or new. -/
lemma Sound.clashes_idOf (ht : t.Sound key) (i : Interface) (k : Identity) :
    t.Clashes key (t.idOf i) i k ↔ t.Clashes key i.id i k := by
  refine exists_congr fun y => and_congr_right fun ⟨r, hr, hstores⟩ => and_congr_left fun _ => ?_
  have hpos := ht.pos r hr
  have hle := le_largestId hr
  rw [hstores.id] at hpos hle
  rw [idOf]
  split
  · rfl
  · omega

/-- How a write of an interface ends that has passed its checks. -/
theorem Sound.stores_of_admissible (ht : t.Sound key) (hc : t.Counted) {now : Int} {i : Interface}
    (hi : i.Admissible now) :
    (i.id ≤ 0 ∧ t.largestId = maxInteger → t.stores now i =
      .error (.agent { kind := .storage, reason := .text "database or disk is full"
                       activity := some (.upsertInterface i.label) })) ∧
    (¬ (i.id ≤ 0 ∧ t.largestId = maxInteger) →
      ((∃ k, t.Clashes key i.id i k) → ∃ k, t.Clashes key i.id i k ∧ t.stores now i =
        .error (.agent { kind := .conflict, reason := .alreadyInUse (some k.name)
                         activity := some (.upsertInterface i.label), entity := some k.name })) ∧
      ((∀ k, ¬ t.Clashes key i.id i k) → t.stores now i = .ok (t.idOf i))) := by
  have hnumbers : ((i.numbers now).any fun n => !fitsColumn n) = false := by
    rw [← Bool.not_eq_true, Interface.any_numbers_iff, hi.clock]
    simpa using hi.range
  have hstores : t.stores now i = DatabaseProblem.explained (.upsertInterface i.label) none
      (t.accepts i.givenId (i.toColumns [] [])) := by
    rw [stores, i.checkKeys_eq, hi.keys, hnumbers]
    rfl
  have hid := idFor_givenId (hc.last_eq ht) i
  rw [hstores, accepts]
  refine ⟨fun hfull => by rw [hid, if_pos hfull]; rfl, fun hfree => ?_⟩
  rw [if_neg hfree] at hid
  simp only [hid, bind, Except.bind]
  simp only [← ht.clashes_idOf, ← ht.any_shared_iff]
  cases hconflict : t.conflict? (some (t.idOf i)) (i.toColumns [] []) with
  | some k =>
    have hk := List.find?_some hconflict
    exact ⟨fun _ => ⟨k, hk, rfl⟩, fun hnone => absurd hk (hnone k)⟩
  | none =>
    refine ⟨fun hclash => ?_, fun _ => rfl⟩
    obtain ⟨k, hk⟩ := hclash
    have hall : k ∈ Identity.all := by cases k <;> simp [Identity.all]
    exact absurd hk (List.find?_eq_none.mp hconflict k hall)

end Tables

/-! ## Rows -/

/-- The row under an id that has been written shows the time of this, and as the time of its creation
that of the row that was there before. -/
lemma InterfaceRow.times_written {rows : List InterfaceRow} (h : Ordered rows) {known : Bool}
    {id : Int} (hknown : known = true ↔ ∃ r ∈ rows, r.id = id) {now : Int} {c : InterfaceColumns}
    {row : InterfaceRow} (hrow : row ∈ written rows known id now c) (hid : row.id = id) :
    row.updatedAt = some now ∧
      row.createdAt = match rows.find? fun r => r.id = id with
        | some old => old.createdAt
        | none => some now := by
  cases known with
  | false =>
    have hnone : ∀ r ∈ rows, ¬ r.id = id := fun r hr hr' => nomatch hknown.mpr ⟨r, hr, hr'⟩
    rw [written, if_neg Bool.false_ne_true, Tables.mem_insertRow] at hrow
    obtain rfl := hrow.resolve_right fun hr => hnone row hr hid
    rw [List.find?_eq_none.mpr fun r hr => by simpa using hnone r hr]
    exact ⟨rfl, rfl⟩
  | true =>
    rw [written, if_pos rfl] at hrow
    obtain ⟨old, hold, rfl⟩ := List.mem_map.mp hrow
    by_cases hsame : old.id = id
    · subst hsame
      rw [h.find?_eq hold, if_pos rfl]
      exact ⟨rfl, rfl⟩
    · rw [if_neg hsame] at hid
      exact absurd hid hsame

namespace Tables

variable {s : Store} {t t' : Tables}

/-- `t'` is what the tables `t` become when `a` is stored in the given second. -/
structure Replaced (key : Bytes) (t : Tables) (a : Interface) (second : Int) (t' : Tables) :
    Prop where
  holds : ∀ b, t'.Holds key b ↔ b = a ∨ b.id ≠ a.id ∧ t.Holds key b
  rows : ∃ row : InterfaceRow, row.id = a.id ∧ row.updatedAt = some second ∧
    (row.createdAt = match t.interface? a.id with
      | some old => old.createdAt
      | none => some second) ∧
    ∀ r, r ∈ t'.interfaces ↔ r = row ∨ r ∈ t.interfaces ∧ r.id ≠ a.id
  log : t'.log = t.log

lemma Sound.replaced (hk : s.key.length = SecretBox.keySize) (ht : t.Sound s.key) {now : Int}
    {e : Entropy} {i : Interface} {id : Int}
    (h : (Change.store s now e i).run t = .ok (id, t')) :
    t.Replaced s.key { i with id } (now.tdiv 1000000) t' := by
  have hwrote := (ht.wrote h).1
  obtain ⟨-, -, t₁, hup, rfl⟩ := Change.store_eq_ok h
  obtain ⟨row, hid, -, -, hmem⟩ := ht.orderly.rows_upsert hup
  obtain ⟨-, -, ht₁⟩ := upsertInterface_eq_ok hup
  have hrow : row ∈ t₁.interfaces := (hmem row).mpr (.inl rfl)
  rw [ht₁] at hrow
  obtain ⟨hupdated, hcreated⟩ :=
    InterfaceRow.times_written ht.ordered hasInterface_iff hrow hid
  exact ⟨(hwrote.effect hk).holds, ⟨row, hid, hupdated, hcreated, by simpa using hmem⟩, hwrote.log⟩

end Tables

namespace Site

variable {w : Site}

/-- What storing an interface comes to on an open store: the outcome, the interface in the hands of the
caller afterwards, and the site. The cases are tried in this order, and one of them applies. -/
structure Storing (w : Site) (i : Interface) (outcome : Except Failure Answer)
    (held : Option Interface) (w' : Site) : Prop where
  /-- The error names the first key that is wrong. -/
  wrongKey : ∀ name bytes, i.wrongKey? = some (name, bytes) → outcome =
    .error (.agent (.validation (.keyLength bytes.length) (.upsertInterface i.label) name))
  outOfRange : i.wrongKey? = none → i.OutOfRange → outcome = .error .integerRange
  /-- The clock is read after the keys have been checked. -/
  clock : i.wrongKey? = none → ¬ i.OutOfRange → fitsColumn (w.host.now.tdiv 1000000) = false →
    outcome = .error .integerRange
  usedUp : i.Admissible w.host.now → i.id ≤ 0 → w.tables.largestId = maxInteger → outcome =
    .error (.agent { kind := .storage, reason := .text "database or disk is full"
                     activity := some (.upsertInterface i.label) })
  /-- The error names an identity that another interface has. -/
  clash : i.Admissible w.host.now → ¬ (i.id ≤ 0 ∧ w.tables.largestId = maxInteger) →
    (∃ k, w.tables.Clashes w.mounted.store.key i.id i k) →
    ∃ k, w.tables.Clashes w.mounted.store.key i.id i k ∧ outcome =
      .error (.agent { kind := .conflict, reason := .alreadyInUse (some k.name)
                       activity := some (.upsertInterface i.label), entity := some k.name })
  /-- The interface is stored under its id, or one above the largest id that is stored. -/
  stored : i.Admissible w.host.now → ¬ (i.id ≤ 0 ∧ w.tables.largestId = maxInteger) →
    (∀ k, ¬ w.tables.Clashes w.mounted.store.key i.id i k) →
    outcome = .ok (.id (w.tables.idOf i)) ∧ held = some { i with id := w.tables.idOf i } ∧
      w.tables.Replaced w.mounted.store.key { i with id := w.tables.idOf i }
        (w.host.now.tdiv 1000000) w'.tables
  failed : ∀ f, outcome = .error f → held = some i ∧ w'.tables = w.tables

lemma Reachable.counted (hw : Reachable w) : w.tables.Counted := by
  obtain ⟨es, hevolves⟩ := hw.evolves
  have hempty : Tables.Counted {} := .inl rfl
  exact hempty.evolves (Tables.sound_empty _) hevolves

/-- Storing an interface outside of any transaction ends as the interface and what is stored decide. A
closed store refuses it. -/
theorem ensure_ends_exactly (hw : Reachable w) (config : Config) (i : Interface) :
    ∃ outcome held w', w.exec ((Call.ensure i).perform config) = (.ok (outcome, held), w') ∧
      (w.IsOpen → w.Storing i outcome held w') ∧
      (¬ w.IsOpen → outcome = .error (.agent (Transaction.closedError w.mounted.store)) ∧ held = some i ∧
        w'.tables = w.tables) := by
  obtain ⟨hsteady, hsound⟩ := hw.spec
  by_cases hopen : w.IsOpen
  · obtain ⟨w', hexec, -, -, -, -, -, htables⟩ :=
      exec_perform_spec hsteady hopen config (.ensure i) rfl
    rw [Call.change, Change.outcome_map, Change.outcome_store] at hexec
    rw [Call.change, Change.after_map] at htables
    refine ⟨_, _, w', hexec, fun _ => ?_, fun hclosed => absurd hopen hclosed⟩
    have hfailed : ∀ f, w.tables.stores w.host.now i = .error f → w'.tables = w.tables := by
      intro f hf
      rw [htables, Change.after_of_outcome_error ((Change.outcome_store _ _ _ i _).trans hf)]
    have hstored : ∀ id, w.tables.stores w.host.now i = .ok id →
        w.tables.Replaced w.mounted.store.key { i with id } (w.host.now.tdiv 1000000) w'.tables := by
      intro id hid
      rw [htables]
      exact hsound.replaced hsteady.key
        (Change.outcome_eq_ok ((Change.outcome_store _ _ _ i _).trans hid))
    have hdecided := @Tables.Sound.stores_of_admissible _ _ hsound hw.counted w.host.now i
    constructor
    case wrongKey =>
      intro name bytes hkey
      rw [Tables.stores, i.checkKeys_eq, hkey]
      rfl
    case outOfRange =>
      intro hkeys hrange
      rw [Tables.stores, i.checkKeys_eq, hkeys, Interface.any_numbers_iff.mpr (.inl hrange)]
      rfl
    case clock =>
      intro hkeys _ hclock
      rw [Tables.stores, i.checkKeys_eq, hkeys, Interface.any_numbers_iff.mpr (.inr hclock)]
      rfl
    case usedUp =>
      intro hi hid hlargest
      rw [(hdecided hi).1 ⟨hid, hlargest⟩]
      rfl
    case clash =>
      intro hi hfree hclash
      obtain ⟨k, hk, hstores⟩ := ((hdecided hi).2 hfree).1 hclash
      rw [hstores]
      exact ⟨k, hk, rfl⟩
    case stored =>
      intro hi hfree hapart
      have hid := ((hdecided hi).2 hfree).2 hapart
      rw [hid]
      exact ⟨rfl, rfl, hstored _ hid⟩
    case failed =>
      intro f hf
      have hstores := Except.map_eq_error.mp hf
      rw [hstores]
      exact ⟨rfl, hfailed f hstores⟩
  · obtain ⟨hexec, -, htables⟩ := exec_perform_of_closed hsteady hopen config (.ensure i)
    exact ⟨_, _, _, hexec, fun h => absurd h hopen, fun _ => ⟨rfl, rfl, htables⟩⟩

/-- An interface with a negative id is stored under the first id. After that, another interface with the
same device id is refused, and the error names the device id. -/
theorem ensure_ends_exactly_of_same_device :
    let key : Bytes := List.replicate Key.size 0
    let addr : Address := .v4 ⟨0, Address.fullPrefix4⟩
    let i : Interface :=
      { id := -1, apiUrl := "", network := ⟨"", "", addr⟩
        device := { id := "", name := "", addr, publicKey := key }, key, deviceToken := [] }
    let j : Interface :=
      { i with id := 7, device := { i.device with name := "b", publicKey := 1 :: key.tail } }
    ∃ held v held' v', blank.exec ((Call.ensure i).perform {}) = (.ok (.ok (.id 1), held), v) ∧
      v.exec ((Call.ensure j).perform {}) =
        (.ok (.error (.agent { kind := .conflict, reason := .alreadyInUse (some "device id")
                               activity := some (.upsertInterface j.label)
                               entity := some "device id" }), held'), v') := by
  intro key addr i j
  have hempty : ∀ b, ¬ blank.tables.Holds blank.mounted.store.key b :=
    fun b ⟨r, hr, _⟩ => absurd hr List.not_mem_nil
  have hi : i.Admissible blank.host.now := by
    constructor
    case range => exact not_or.mpr ⟨by decide, by decide⟩
    all_goals decide
  obtain ⟨outcome, held, v, hexec, hstores, -⟩ := ensure_ends_exactly reachable_blank {} i
  obtain ⟨rfl, -, hreplaced⟩ :=
    (hstores rfl).stored hi (by decide) fun k ⟨y, hy, _⟩ => hempty y hy
  have hcall : (blank.call {} (.ensure i)).2 = v := by rw [call, hexec]
  have hv : Reachable v := hcall ▸ reachable_blank.call {} (.ensure i)
  have hopen : v.mounted.connection.closed = false := by
    rw [← hcall]
    decide +kernel
  have hnow : v.host.now = 0 := by
    rw [← hcall]
    decide +kernel
  have hkey : v.mounted.store.key = blank.mounted.store.key := by
    rw [← hcall]
    decide +kernel
  have hj : j.Admissible v.host.now := by
    rw [hnow]
    constructor
    case range => exact not_or.mpr ⟨by decide, by decide⟩
    all_goals decide
  have hclash : v.tables.Clashes v.mounted.store.key j.id j .deviceId := by
    rw [hkey]
    exact ⟨_, (hreplaced.holds _).mpr (.inl rfl), by decide, rfl⟩
  obtain ⟨outcome', held', v', hexec', hstores', -⟩ := ensure_ends_exactly hv {} j
  obtain ⟨k, ⟨y, hy, -, hshares⟩, rfl⟩ :=
    (hstores' hopen).clash hj (fun h => absurd h.1 (by decide)) ⟨_, hclash⟩
  rw [hkey, hreplaced.holds] at hy
  obtain rfl := hy.resolve_right fun h => hempty y h.2
  refine ⟨held, v, held', v', hexec, ?_⟩
  cases k with
  | publicKey => exact absurd hshares (by unfold Interface.Shares; decide)
  | networkAndDeviceName => exact absurd hshares.2 (by decide)
  | deviceId => exact hexec'

end Site

end MeshAgent
