import MeshAgent.Proofs.Store.Outcomes

/-!
# What calls fail with

Whatever a call fails with comes from a check of its arguments, from the database, from the clock or
from an entry that it looks at. All but three kinds of that are agent errors: a number that no column
holds, and times that are no dates.
-/
namespace MeshAgent

section

variable {ε α β : Type} {P : ε → Prop}

/-- Whatever a computation fails with has the property. -/
def FailsWith (P : ε → Prop) (x : Except ε α) : Prop := ∀ e, x = .error e → P e

lemma FailsWith.ok (a : α) : FailsWith P (.ok a) := fun _ h => nomatch h

lemma FailsWith.error {e : ε} (h : P e) : FailsWith P (.error e : Except ε α) :=
  fun _ he => Except.error.inj he ▸ h

lemma FailsWith.bind {x : Except ε α} {f : α → Except ε β} (hx : FailsWith P x)
    (hf : ∀ a, FailsWith P (f a)) : FailsWith P (x >>= f) := by
  intro e he
  rcases Except.bind_eq_error.mp he with hfirst | ⟨a, -, hrest⟩
  · exact hx e hfirst
  · exact hf a e hrest

lemma FailsWith.map {x : Except ε α} (hx : FailsWith P x) (g : α → β) : FailsWith P (x.map g) :=
  fun e he => hx e (Except.map_eq_error.mp he)

lemma FailsWith.mapM {f : α → Except ε β} {as : List α} (hf : ∀ a ∈ as, FailsWith P (f a)) :
    FailsWith P (as.mapM f) := by
  induction as with
  | nil => exact FailsWith.ok []
  | cons a as ih =>
    rw [List.mapM_cons]
    have hrest := ih fun b hb => hf b (List.mem_cons_of_mem a hb)
    exact (hf a List.mem_cons_self).bind fun b => hrest.bind fun bs => FailsWith.ok (b :: bs)

lemma FailsWith.forM {f : α → Except ε PUnit} {as : List α} (hf : ∀ a ∈ as, FailsWith P (f a)) :
    FailsWith P (as.forM f) := by
  induction as with
  | nil => exact FailsWith.ok PUnit.unit
  | cons a as ih =>
    exact (hf a List.mem_cons_self).bind fun _ => ih fun b hb => hf b (List.mem_cons_of_mem a hb)

end

lemma Key.check_fails (bytes : Bytes) (activity : Activity) (entity : String) :
    FailsWith (fun e => e.kind = .validation) (Key.check bytes activity entity) := by
  rw [check]
  split
  · exact FailsWith.ok ()
  · exact FailsWith.error rfl

/-- The check of a response finds malformed keys only. -/
lemma JoinResponse.checkKeys_fails (r : JoinResponse) (activity : Activity) :
    FailsWith (fun e => e.kind = .validation) (r.checkKeys activity) :=
  (Key.check_fails _ _ _).bind fun _ => FailsWith.forM fun _ _ => Key.check_fails _ _ _

/-- A call that can begin no transaction fails for that reason, or in the check of its response. -/
lemma Call.refusedFor_cases (f : Failure) (c : Call Interface) :
    c.refusedFor f = f ∨ ∃ e, e.kind = .validation ∧ c.refusedFor f = .agent e := by
  have hcheck : ∀ (r : JoinResponse) (activity : Activity),
      f.afterCheck (r.checkKeys activity) = f ∨
        ∃ e, e.kind = .validation ∧ f.afterCheck (r.checkKeys activity) = .agent e := by
    intro r activity
    cases h : r.checkKeys activity with
    | ok u => exact Or.inl rfl
    | error e => exact Or.inr ⟨e, r.checkKeys_fails activity e h, rfl⟩
  cases c with
  | join apiUrl privateKey listenPort response message => exact hcheck response .recordJoin
  | refresh i response message => exact hcheck response .recordRefresh
  | _ => exact Or.inl rfl

/-- What calls fail with at the time `now`, on tables with the given log. -/
inductive Failure.Known (now : Int) (log : List LogRow) : Failure → Prop
  | agent (e : AgentError) : Known now log (.agent e)
  | integerRange : Known now log .integerRange
  /-- The clock shows no date. -/
  | clock {f : Failure} : History.checkTime (now.fdiv 1000000) = .error f → Known now log f
  /-- An entry cannot be read. -/
  | entry {r : LogRow} {f : Failure} :
    r ∈ log → History.entryOfRow r = .error f → Known now log f

variable {α : Type} {now : Int} {log log' : List LogRow} {t : Tables}

lemma Failure.Known.mono {f : Failure} (h : f.Known now log) (hlog : log ⊆ log') :
    f.Known now log' := by
  cases h with
  | agent e => exact .agent e
  | integerRange => exact .integerRange
  | clock hf => exact .clock hf
  | entry hr hf => exact .entry (hlog hr) hf

lemma known_orFail (x : Except AgentError α) : FailsWith (Failure.Known now log) (orFail x) := by
  intro f hf
  obtain ⟨e, -, rfl⟩ := orFail_eq_error.mp hf
  exact .agent e

lemma known_explained (activity : Activity) (entity : Option String)
    (x : Except DatabaseProblem α) :
    FailsWith (Failure.Known now log) (DatabaseProblem.explained activity entity x) := by
  cases x with
  | error p => exact FailsWith.error (.agent _)
  | ok a => exact FailsWith.ok a

lemma known_checkTime : FailsWith (Failure.Known now log) (History.checkTime (now.fdiv 1000000)) :=
  fun _ hf => .clock hf

namespace Tables

lemma known_stores (i : Interface) : FailsWith (Failure.Known now log) (t.stores now i) := by
  refine (known_orFail _).bind fun _ => ?_
  split
  · exact FailsWith.error .integerRange
  · exact known_explained _ _ _

lemma known_appends (i : Interface) (operation : Operation) (state : State) (dirty : Bool)
    (message : String) :
    FailsWith (Failure.Known now log) (t.appends now i operation state dirty message) := by
  refine FailsWith.map ?_ _
  split
  · exact FailsWith.error .integerRange
  · exact known_explained _ _ _

lemma known_records (i : Interface) : FailsWith (Failure.Known now log) (t.records now i) := by
  refine (known_stores i).bind fun id => known_checkTime.bind fun _ => ?_
  split
  · exact FailsWith.error (.agent _)
  · exact FailsWith.ok _

/-- An entry that is looked at is one of the log. -/
lemma known_entry {row : Option LogRow} (hrow : ∀ r, row = some r → r ∈ t.log) :
    FailsWith (Failure.Known now t.log)
      (match row with
      | none => .ok none
      | some r => (History.entryOfRow r).map some) := by
  cases row with
  | none => exact FailsWith.ok none
  | some r => exact FailsWith.map (fun f hf => .entry (hrow r rfl) hf) some

lemma mem_of_lastLog? {id : Int} {r : LogRow} (h : t.lastLog? id = some r) : r ∈ t.log :=
  (List.mem_filter.mp (List.mem_of_getLast? h)).1

lemma mem_of_lastLogNamed? {device network : String} {r : LogRow}
    (h : t.lastLogNamed? device network = some r) : r ∈ t.log :=
  (List.mem_filter.mp (List.mem_of_getLast? h)).1

lemma known_newest (i : Interface) : FailsWith (Failure.Known now t.log) (t.newest i) := by
  rw [newest]
  split
  · exact FailsWith.error .integerRange
  · exact known_entry fun r hr => mem_of_lastLog? hr

lemma known_load (key : Bytes) (id : Int) :
    FailsWith (Failure.Known now log) (t.load key id) := by
  rw [load]
  split
  · exact FailsWith.error .integerRange
  · split
    · exact FailsWith.error (.agent _)
    · exact known_orFail _

lemma known_loadNamed (key : Bytes) (device network : String) :
    FailsWith (Failure.Known now log) (t.loadNamed key device network) := by
  rw [loadNamed]
  split
  · exact FailsWith.error (.agent _)
  · exact known_load key _

lemma known_listed (key : Bytes) : FailsWith (Failure.Known now t.log) (t.listed key) := by
  refine FailsWith.mapM fun id _ => ?_
  exact (known_load key id).bind fun a => (known_newest a).bind fun _ => FailsWith.ok _

lemma known_entryNamed (device network : String) :
    FailsWith (Failure.Known now t.log) (t.entryNamed device network) := by
  refine FailsWith.bind (known_entry fun r hr => mem_of_lastLogNamed? hr) fun last => ?_
  cases last with
  | none => exact FailsWith.error (.agent _)
  | some e => exact FailsWith.ok e

end Tables

namespace Call

/-- A step that a call reports as failed is named as one of the known operations. -/
def NamesOperation : Call Interface → Prop
  | failed _ operation _ => ∃ o : Operation, operation = o.name
  | _ => True

lemma checkNamed_name (o : Operation) (s : State) :
    History.checkNamed now o.name s.name =
      (History.checkTime (now.fdiv 1000000)).map fun _ => (o, s) := by
  simp only [History.checkNamed, History.readNames, Operation.ofName?_name, State.ofName?_name]
  cases History.checkTime (now.fdiv 1000000) <;> rfl

/-- A call asks for the newest entry of an interface before it does anything else. -/
inductive Consults (config : Config) : Call Interface → Interface → Prop
  | join {apiUrl : Option String} {privateKey : Bytes} {listenPort : Option Int}
      {response : JoinResponse} {message : String} : response.WellKeyed →
    Consults config (join apiUrl privateKey listenPort response message)
      (Agent.joined config apiUrl privateKey listenPort response)
  | refresh {i : Interface} {response : JoinResponse} {message : String} : response.WellKeyed →
    Consults config (refresh i response message) (Agent.refreshed i response)
  | applied {i : Interface} {message : String} : Consults config (applied i message) i
  | failed {i : Interface} {operation message : String} :
    Consults config (failed i operation message) i
  | needsApply {i : Interface} : Consults config (needsApply i) i

open Change in
/-- What a call does with the entry that it has asked for fails for no reason that lies in the log. -/
lemma outcome_of_consults {config : Config} {s : Store} {e : Entropy} (ht : t.SoundButLog s.key)
    {c : Call Interface} {i : Interface} (hi : c.Consults config i) (hc : c.NamesOperation) :
    ∃ f : Option Entry → Except Failure Answer,
      (c.change config s now e).outcome t = t.newest i >>= f ∧
        ∀ last, FailsWith (Failure.Known now []) (f last) := by
  have hmap : ∀ {α : Type} (x : Except Failure (Option Entry)) (f : Option Entry → Except Failure α)
      (g : α → Answer), (x >>= f).map g = x >>= fun last => (f last).map g := by
    intro α x f g
    cases x <;> rfl
  cases hi with
  | join hkeys =>
    simp only [change, outcome_map, outcome_guarded, outcome_logged, outcome_record ht,
      JoinResponse.checkKeys_eq_ok.mpr hkeys]
    exact ⟨_, hmap _ _ _, fun _ => (Tables.known_records _).map _⟩
  | refresh hkeys =>
    simp only [change, outcome_map, outcome_guarded, outcome_logged, outcome_record ht,
      JoinResponse.checkKeys_eq_ok.mpr hkeys]
    exact ⟨_, hmap _ _ _, fun _ => (Tables.known_records _).map _⟩
  | applied =>
    simp only [change, outcome_map, outcome_logged, outcome_enter]
    exact ⟨_, hmap _ _ _, fun _ => (known_checkTime.bind fun _ =>
      Tables.known_appends _ _ _ _ _).map _⟩
  | failed =>
    obtain ⟨o, rfl⟩ := hc
    simp only [change, outcome_map, outcome_logged, outcome_enterNamed, checkNamed_name]
    exact ⟨_, hmap _ _ _, fun _ => ((known_checkTime.map _).bind fun _ =>
      Tables.known_appends _ _ _ _ _).map _⟩
  | needsApply =>
    simp only [change, outcome_map, outcome_logged]
    exact ⟨_, hmap _ _ _, fun _ => (FailsWith.ok _).map _⟩

lemma known_of_consults {config : Config} {s : Store} {e : Entropy} (ht : t.SoundButLog s.key)
    {c : Call Interface} {i : Interface} (hi : c.Consults config i) (hc : c.NamesOperation) :
    FailsWith (Failure.Known now t.log) ((c.change config s now e).outcome t) := by
  obtain ⟨f, hf, hknown⟩ := outcome_of_consults ht hi hc
  rw [hf]
  exact (Tables.known_newest i).bind fun last e he => (hknown last e he).mono (List.nil_subset _)

open Change in
/-- Whatever a call fails with is one of the known failures. -/
theorem known_failure (config : Config) {s : Store} (now : Int) (e : Entropy)
    (ht : t.SoundButLog s.key) {c : Call Interface} (hc : c.NamesOperation) :
    FailsWith (Failure.Known now t.log) ((c.change config s now e).outcome t) := by
  cases c with
  | ensure i =>
    rw [change, outcome_map, outcome_store]
    exact (Tables.known_stores i).map _
  | interface id =>
    rw [change, outcome_map, outcome_look]
    exact (Tables.known_load _ id).map _
  | interfaceByDevice device network =>
    rw [change, outcome_map, outcome_look]
    exact (Tables.known_loadNamed _ device network).map _
  | interfaces =>
    rw [change, outcome_map, outcome_look]
    exact (Tables.known_listed _).map _
  | lastLogByDevice device network =>
    rw [change, outcome_map, outcome_look]
    exact (Tables.known_entryNamed device network).map _
  | join apiUrl privateKey listenPort response message =>
    cases hcheck : response.checkKeys .recordJoin with
    | ok u => exact known_of_consults ht (.join (JoinResponse.checkKeys_eq_ok.mp hcheck)) hc
    | error f =>
      rw [change, outcome_map, outcome_guarded, hcheck]
      exact FailsWith.error (.agent f)
  | refresh i response message =>
    cases hcheck : response.checkKeys .recordRefresh with
    | ok u => exact known_of_consults ht (.refresh (JoinResponse.checkKeys_eq_ok.mp hcheck)) hc
    | error f =>
      rw [change, outcome_map, outcome_guarded, hcheck]
      exact FailsWith.error (.agent f)
  | applied i message => exact known_of_consults ht .applied hc
  | failed i operation message => exact known_of_consults ht .failed hc
  | needsApply i => exact known_of_consults ht .needsApply hc

end Call

/-! ## Numbers that no column holds -/

namespace Agent

/-- The keys of a response become keys of the interface that a join stores. -/
lemma wellKeyed_joined {r : JoinResponse} (h : r.WellKeyed) {config : Config}
    {apiUrl : Option String} {privateKey : Bytes} {listenPort : Option Int} :
    (joined config apiUrl privateKey listenPort r).WellKeyed ↔ privateKey.length = Key.size :=
  ⟨fun hi => hi.key, fun hkey => ⟨hkey, h.publicKey, h.peerKeys⟩⟩

lemma wellKeyed_refreshed {r : JoinResponse} (h : r.WellKeyed) {i : Interface} :
    (refreshed i r).WellKeyed ↔ i.key.length = Key.size :=
  ⟨fun hi => hi.key, fun hkey => ⟨hkey, h.publicKey, h.peerKeys⟩⟩

end Agent

/-- A number of the interface, other than an id that stands for a new one, fits in no column. -/
def Interface.Overflows (i : Interface) : Prop :=
  maxInteger < i.id ∨ fitsColumn i.listenPort = false

/-- A call gets as far as handing the database a number that no column holds. -/
def Call.Overflows (config : Config) : Call Interface → Prop
  | ensure i => i.WellKeyed ∧ i.Overflows
  | interface id => fitsColumn id = false
  | interfaceByDevice .. => False
  | interfaces => False
  | lastLogByDevice .. => False
  | join _ privateKey listenPort response _ =>
    response.WellKeyed ∧ privateKey.length = Key.size ∧
      fitsColumn (listenPort.getD config.listenPort) = false
  | refresh i response _ =>
    response.WellKeyed ∧
      (fitsColumn i.id = false ∨ i.key.length = Key.size ∧ fitsColumn i.listenPort = false)
  | applied i _ => fitsColumn i.id = false
  | failed i _ _ => fitsColumn i.id = false
  | needsApply i => fitsColumn i.id = false

/-- A date has a number of seconds that a column holds. -/
lemma fitsColumn_of_checkTime (h : History.checkTime (now.fdiv 1000000) = .ok ()) :
    fitsColumn (now.tdiv 1000000) = true := by
  have hdate : -62135596800 ≤ now / 1000000 ∧ now / 1000000 ≤ 253402300799 := by
    by_contra hno
    simp only [History.checkTime, History.firstSecond, History.lastSecond,
      Int.fdiv_eq_ediv_of_nonneg now (show (0 : Int) ≤ 1000000 by omega), if_neg hno] at h
    split at h <;> simp at h
  rw [fitsColumn_iff, maxInteger, Int.tdiv_eq_ediv, show Int.sign 1000000 = 1 from rfl]
  split <;> omega

lemma orFail_ne_integerRange (x : Except AgentError α) : orFail x ≠ .error .integerRange := by
  cases x <;> simp [orFail]

lemma explained_ne_integerRange (activity : Activity) (entity : Option String)
    (x : Except DatabaseProblem α) :
    DatabaseProblem.explained activity entity x ≠ .error .integerRange := by
  cases x <;> simp [DatabaseProblem.explained]

namespace Tables

lemma overflows_iff (hclock : History.checkTime (now.fdiv 1000000) = .ok ()) (i : Interface) :
    ((i.numbers now).any fun n => !fitsColumn n) = true ↔ i.Overflows := by
  have htime := fitsColumn_of_checkTime hclock
  have hid : (∃ n, i.givenId = some n ∧ fitsColumn n = false) ↔ maxInteger < i.id := by
    rw [Interface.givenId]
    split
    · simp only [Option.some.injEq, exists_eq_left', ← Bool.not_eq_true, fitsColumn_iff, maxInteger]
      omega
    · simp only [reduceCtorEq, false_and, exists_false, false_iff, maxInteger]
      omega
  simp only [Interface.numbers, Interface.Overflows, List.any_append, List.any_cons, List.any_nil,
    htime, Bool.not_true, Bool.false_or, Bool.or_false, Bool.or_eq_true, Bool.not_eq_true',
    List.any_eq_true, Option.mem_toList, hid]

lemma stores_eq_integerRange (hclock : History.checkTime (now.fdiv 1000000) = .ok ())
    (i : Interface) : t.stores now i = .error .integerRange ↔ i.WellKeyed ∧ i.Overflows := by
  simp only [stores, Except.bind_eq_error, orFail_ne_integerRange, false_or, orFail_eq_ok,
    Unique.exists_iff, PUnit.default_eq_unit, Interface.checkKeys_eq_ok,
    ← overflows_iff hclock i]
  refine and_congr_right fun _ => ?_
  split <;> simp_all [explained_ne_integerRange]

lemma records_eq_integerRange (hclock : History.checkTime (now.fdiv 1000000) = .ok ())
    (i : Interface) : t.records now i = .error .integerRange ↔ i.WellKeyed ∧ i.Overflows := by
  simp only [records, Except.bind_eq_error, stores_eq_integerRange hclock, hclock, reduceCtorEq,
    false_or, or_iff_left_iff_imp]
  rintro ⟨id, -, u, -, h⟩
  split at h <;> simp at h

lemma appends_eq_integerRange (i : Interface) (operation : Operation) (state : State)
    (dirty : Bool) (message : String) :
    t.appends now i operation state dirty message = .error .integerRange ↔
      fitsColumn i.id = false := by
  rw [appends, Except.map_eq_error]
  cases fitsColumn i.id <;> simp [explained_ne_integerRange]

lemma load_eq_integerRange (key : Bytes) (id : Int) :
    t.load key id = .error .integerRange ↔ fitsColumn id = false := by
  rw [load]
  cases fitsColumn id with
  | false => simp
  | true =>
    simp only [Bool.not_true, Bool.false_eq_true, if_false, reduceCtorEq, iff_false]
    split
    · simp
    · exact orFail_ne_integerRange _

variable {key : Bytes}

/-- The newest entry of sound tables can be read unless it is asked for under an id that no column
holds. -/
lemma Sound.newest_cases (ht : t.Sound key) (i : Interface) :
    fitsColumn i.id = false ∧ t.newest i = .error .integerRange ∨
      fitsColumn i.id = true ∧ ∃ last, t.newest i = .ok last := by
  cases hfits : fitsColumn i.id with
  | false => exact Or.inl ⟨rfl, by rw [newest, hfits]; rfl⟩
  | true =>
    obtain ⟨last, hlast, -⟩ := ht.newest_eq hfits
    exact Or.inr ⟨rfl, last, hlast⟩

/-- What follows the newest entry runs into a number that no column holds if the id is such a number,
and otherwise if it does so itself. -/
lemma Sound.newest_bind_eq_integerRange (ht : t.Sound key) (i : Interface)
    {f : Option Entry → Except Failure α} {p : Prop}
    (hf : ∀ last, f last = .error .integerRange ↔ p) :
    (t.newest i >>= f) = .error .integerRange ↔ fitsColumn i.id = false ∨ p := by
  rcases ht.newest_cases i with ⟨hfits, hnewest⟩ | ⟨hfits, last, hnewest⟩
  · rw [hnewest]
    exact iff_of_true rfl (Or.inl hfits)
  · rw [hnewest, hfits]
    exact (hf last).trans (by simp)

lemma Sound.loadNamed_ne_integerRange (ht : t.Sound key) (device network : String) :
    t.loadNamed key device network ≠ .error .integerRange := by
  rw [loadNamed]
  split
  · simp
  · rename_i r hr
    rw [Ne, load_eq_integerRange, ht.fits (List.mem_of_find?_eq_some hr)]
    simp

lemma Sound.entryNamed_ne_integerRange (ht : t.Sound key) (device network : String) :
    t.entryNamed device network ≠ .error .integerRange := by
  intro h
  have hread : ∃ last, t.newestNamed device network = .ok last := by
    rw [newestNamed]
    cases hrow : t.lastLogNamed? device network with
    | none => exact ⟨none, rfl⟩
    | some r =>
      obtain ⟨e, he⟩ := ht.log_readable r (mem_of_lastLogNamed? hrow)
      exact ⟨some e, by simp only [he]; rfl⟩
  obtain ⟨last, hlast⟩ := hread
  rw [entryNamed, hlast] at h
  cases last <;> simp [bind, Except.bind, pure, Except.pure] at h

end Tables

namespace Call

open Change in
/-- A number that no column holds is what a call fails with exactly if it hands one to the database. -/
theorem outcome_eq_integerRange (config : Config) {s : Store} (hk : s.key.length = SecretBox.keySize)
    (hclock : History.checkTime (now.fdiv 1000000) = .ok ()) (e : Entropy) (ht : t.Sound s.key)
    {c : Call Interface} (hc : c.NamesOperation) :
    (c.change config s now e).outcome t = .error .integerRange ↔ c.Overflows config := by
  cases c with
  | ensure i =>
    rw [change, outcome_map, outcome_store, Except.map_eq_error,
      Tables.stores_eq_integerRange hclock, Overflows]
  | interface id =>
    rw [change, outcome_map, outcome_look, Except.map_eq_error, Tables.load_eq_integerRange,
      Overflows]
  | interfaceByDevice device network =>
    rw [change, outcome_map, outcome_look, Except.map_eq_error]
    exact iff_of_false (ht.loadNamed_ne_integerRange device network) id
  | interfaces =>
    obtain ⟨items, hitems, -⟩ := ht.listed_eq hk
    rw [change, outcome_map, outcome_look, hitems]
    exact iff_of_false (by simp [Except.map]) id
  | lastLogByDevice device network =>
    rw [change, outcome_map, outcome_look, Except.map_eq_error]
    exact iff_of_false (ht.entryNamed_ne_integerRange device network) id
  | join apiUrl privateKey listenPort response message =>
    simp only [change, outcome_map, outcome_guarded, outcome_logged, outcome_record ht.butLog,
      Except.map_eq_error, Except.bind_eq_error (x := orFail _), orFail_ne_integerRange, false_or,
      orFail_eq_ok, Unique.exists_iff, PUnit.default_eq_unit, JoinResponse.checkKeys_eq_ok]
    refine and_congr_right fun hkeys => (ht.newest_bind_eq_integerRange _ fun _ =>
      Tables.records_eq_integerRange hclock _).trans ?_
    have hid : fitsColumn 0 = true ∧ ¬ maxInteger < 0 := by decide
    rw [Agent.wellKeyed_joined hkeys]
    simp [Interface.Overflows, Agent.joined, hid]
  | refresh i response message =>
    simp only [change, outcome_map, outcome_guarded, outcome_logged, outcome_record ht.butLog,
      Except.map_eq_error, Except.bind_eq_error (x := orFail _), orFail_ne_integerRange, false_or,
      orFail_eq_ok, Unique.exists_iff, PUnit.default_eq_unit, JoinResponse.checkKeys_eq_ok]
    refine and_congr_right fun hkeys => (ht.newest_bind_eq_integerRange _ fun _ =>
      Tables.records_eq_integerRange hclock _).trans ?_
    rw [Agent.wellKeyed_refreshed hkeys]
    simp only [Interface.Overflows, Agent.refreshed]
    rcases Bool.eq_false_or_eq_true (fitsColumn i.id) with hfits | hfits
    · have hle := (fitsColumn_iff.mp hfits).2
      simp [hfits, Int.not_lt.mpr hle]
    · simp [hfits]
  | applied i message =>
    simp only [change, outcome_map, outcome_logged, outcome_enter, Except.map_eq_error, hclock]
    exact (ht.newest_bind_eq_integerRange i fun _ =>
      Tables.appends_eq_integerRange i _ _ _ _).trans or_self_iff
  | failed i operation message =>
    obtain ⟨o, rfl⟩ := hc
    simp only [change, outcome_map, outcome_logged, outcome_enterNamed, checkNamed_name,
      Except.map_eq_error, hclock]
    exact (ht.newest_bind_eq_integerRange i fun _ =>
      Tables.appends_eq_integerRange i _ _ _ _).trans or_self_iff
  | needsApply i =>
    simp only [change, outcome_map, outcome_logged, Except.map_eq_error]
    refine (ht.newest_bind_eq_integerRange i fun last => ?_).trans (or_iff_left not_false)
    exact iff_of_false (by rintro ⟨⟩) not_false

end Call

end MeshAgent
