import MeshAgent.Proofs.Home.FailClosed
import MeshAgent.Proofs.Home.Status
import MeshAgent.Proofs.Store.Refusals

/-!
# Damaged logs

The rows of a log can hold any texts and any numbers. A row whose operation or state is not known is
refused with a parse error, and with it every read that looks at it. A row whose time is no date gets
past that: what the calendar fails with reaches the caller as it is.
-/
namespace MeshAgent

namespace Operation

lemma ofName?_eq_some {text : String} {o : Operation} : ofName? text = some o ↔ text = o.name := by
  constructor
  · intro h
    simpa [eq_comm] using List.find?_some h
  · rintro rfl
    exact ofName?_name o

lemma ofName?_eq_none {text : String} : ofName? text = none ↔ ∀ o : Operation, text ≠ o.name := by
  simp only [Option.eq_none_iff_forall_ne_some, ne_eq, ofName?_eq_some]

end Operation

namespace State

lemma ofName?_eq_some {text : String} {s : State} : ofName? text = some s ↔ text = s.name := by
  constructor
  · intro h
    simpa [eq_comm] using List.find?_some h
  · rintro rfl
    exact ofName?_name s

lemma ofName?_eq_none {text : String} : ofName? text = none ↔ ∀ s : State, text ≠ s.name := by
  simp only [Option.eq_none_iff_forall_ne_some, ne_eq, ofName?_eq_some]

end State

/-- A failure of the calendar. -/
inductive Failure.OfCalendar : Failure → Prop
  | yearRange (year : Int) : OfCalendar (.yearRange year)
  | timeOverflow : OfCalendar .timeOverflow

lemma History.checkTime_cases (seconds : Int) :
    (History.firstSecond ≤ seconds ∧ seconds ≤ History.lastSecond) ∧
        History.checkTime seconds = .ok () ∨
      ¬ (History.firstSecond ≤ seconds ∧ seconds ≤ History.lastSecond) ∧
        ∃ f, History.checkTime seconds = .error f ∧ f.OfCalendar := by
  simp only [History.checkTime]
  split
  · rename_i hdate
    exact Or.inl ⟨hdate, rfl⟩
  · rename_i hdate
    refine Or.inr ⟨hdate, ?_⟩
    split
    · exact ⟨_, rfl, .yearRange _⟩
    · exact ⟨_, rfl, .timeOverflow⟩

namespace LogRow

/-- The time of the row is a date; a time that is missing counts as the start of 1970. -/
def IsDated (r : LogRow) : Prop :=
  History.firstSecond ≤ r.seconds.getD 0 ∧ r.seconds.getD 0 ≤ History.lastSecond

/-- Refuses a row because of a text that is no member of a set of names. -/
def refusal (r : LogRow) (text set : String) : AgentError :=
  { kind := .parse, reason := .logEntry r.id text set, activity := some .queryLog }

/-- What a row may be read as. -/
inductive ReadAs (r : LogRow) : Except Failure Entry → Prop
  | complete {o : Operation} {s : State} :
    r.operation = o.name → r.state = s.name → r.IsDated →
    ReadAs r (.ok
      { id := r.id, seconds := r.seconds.getD 0, operation := o, state := s, dirty := r.dirty ≠ 0
        message := r.message })
  | unknownOperation :
    (∀ o : Operation, r.operation ≠ o.name) →
    ReadAs r (.error (.agent (r.refusal r.operation "Operation")))
  | unknownState {o : Operation} :
    r.operation = o.name → (∀ s : State, r.state ≠ s.name) →
    ReadAs r (.error (.agent (r.refusal r.state "State")))
  | undated {o : Operation} {s : State} {f : Failure} :
    r.operation = o.name → r.state = s.name → ¬ r.IsDated → f.OfCalendar → ReadAs r (.error f)

theorem readAs_entryOfRow (r : LogRow) : r.ReadAs (History.entryOfRow r) := by
  unfold History.entryOfRow
  cases ho : Operation.ofName? r.operation with
  | none => exact .unknownOperation (Operation.ofName?_eq_none.mp ho)
  | some o =>
    have hoperation := Operation.ofName?_eq_some.mp ho
    cases hs : State.ofName? r.state with
    | none => exact .unknownState hoperation (State.ofName?_eq_none.mp hs)
    | some s =>
      have hstate := State.ofName?_eq_some.mp hs
      rcases History.checkTime_cases (r.seconds.getD 0) with ⟨hdate, hok⟩ | ⟨hdate, f, hf, hcalendar⟩
      · simp only [hok]
        exact .complete hoperation hstate hdate
      · simp only [hf]
        exact .undated hoperation hstate hdate hcalendar

end LogRow

namespace Tables

variable {key : Bytes} {t : Tables}

lemma SoundButLog.lawful (ht : t.SoundButLog key) : t.Lawful :=
  ⟨ht.ordered, fun _ => Sound.fits ht, ht.distinct⟩

lemma SoundButLog.exists_load (ht : t.SoundButLog key) (hk : key.length = SecretBox.keySize)
    {r : InterfaceRow} (hr : r ∈ t.interfaces) : ∃ a, t.load key r.id = .ok a := by
  have hsound : ({ t with log := [] } : Tables).Sound key := ht
  obtain ⟨a, ha, hstores⟩ := hsound.exists_holds hr
  exact ⟨a, by rw [hstores.id]; exact hsound.load_eq hk ha⟩

/-- Only the newest entry of an interface keeps the list from being answered. -/
lemma SoundButLog.listed_cases (ht : t.SoundButLog key) (hk : key.length = SecretBox.keySize) :
    (∃ items, t.listed key = .ok items ∧
      List.Forall₂ (fun r item => t.load key r.id = .ok item.interface ∧
        t.newestOf r.id = .ok item.entry) t.interfaces items) ∨
      ∃ r ∈ t.interfaces, ∃ f, t.newestOf r.id = .error f ∧ t.listed key = .error f := by
  cases hlisted : t.listed key with
  | ok items =>
    have hitems := ht.lawful.listed_eq_ok.mp hlisted
    exact Or.inl ⟨items, rfl, hitems.imp fun r item h => ⟨h.interface, h.entry⟩⟩
  | error f =>
    have hfails : FailsWith (fun f => ∃ r ∈ t.interfaces, t.newestOf r.id = .error f)
        (t.listed key) := by
      refine FailsWith.mapM fun id hid => ?_
      obtain ⟨r, hr, rfl⟩ := List.mem_map.mp hid
      obtain ⟨a, ha⟩ := ht.exists_load hk hr
      rw [ht.lawful.loadListed_eq hr, ha]
      refine FailsWith.bind (FailsWith.ok a) fun _ => FailsWith.bind ?_ fun _ => FailsWith.ok _
      exact fun f hf => ⟨r, hr, hf⟩
    obtain ⟨r, hr, hnewest⟩ := hfails f hlisted
    exact Or.inr ⟨r, hr, f, hnewest, rfl⟩

end Tables

namespace Site

variable {w : Site}

/-- What the reads of a store do that look at last entries, whatever the rows of the log hold. -/
structure ReadsLog (w : Site) : Prop where
  /-- A row is read as a complete entry, refused with a parse error, or fails in the calendar. -/
  read : ∀ r ∈ w.tables.log, r.ReadAs (History.entryOfRow r)
  /-- Names lead to what the newest row under them is read as. -/
  named : ∀ config device network,
    (w.call config (.lastLogByDevice device network)).1 =
      match w.tables.lastLogNamed? device network with
      | none => .error (.agent (Tables.missingLog device network))
      | some r => (History.entryOfRow r).map fun e => .entry (some e)
  /-- The list has every interface with its newest entry, or fails as one of these entries does. -/
  listed : ∀ config,
    (∃ items, (w.call config .interfaces).1 = .ok (.listed items) ∧
      List.Forall₂ (fun r item =>
        (w.call config (.interface r.id)).1 = .ok (.interface item.interface) ∧
          w.tables.newestOf r.id = .ok item.entry) w.tables.interfaces items) ∨
      ∃ r ∈ w.tables.interfaces, ∃ f, w.tables.newestOf r.id = .error f ∧
        (w.call config .interfaces).1 = .error f
  /-- A callback gets the newest entry, or it is not run and the block leaves everything as it was. -/
  handed : ∀ i : Interface, fitsColumn i.id = true →
    (∀ last, w.tables.newestOf i.id = .ok last →
      (w.withLog i fun last => .done last).1 = .ok last ∧
        ∀ (α : Type) (callback : Option Entry → Callback α),
          w.withLog i callback = w.withLog i fun _ => callback last) ∧
    ∀ f, w.tables.newestOf i.id = .error f → ∀ (α : Type) (callback : Option Entry → Callback α),
      (w.withLog i callback).1 = .error f ∧ (w.withLog i callback).2.tables = w.tables
  /-- A call that asks for the newest entry fails as the entry does and leaves everything as it was, or
  has nothing to do with the log any more. -/
  consulted : ∀ config (c : Call Interface) i, c.Consults config i → c.NamesOperation →
    fitsColumn i.id = true →
    (∀ last, w.tables.newestOf i.id = .ok last →
      ∀ f, (w.call config c).1 = .error f → f.Known w.host.now []) ∧
    ∀ f, w.tables.newestOf i.id = .error f →
      (w.call config c).1 = .error f ∧ (w.call config c).2.tables = w.tables
  /-- Whatever any call fails with, other than agent errors, numbers that no column holds and a clock
  without a date, comes from the calendar and from a row that is in order but for its time. -/
  failures : ∀ config (c : Call Interface), c.NamesOperation → ∀ f, (w.call config c).1 = .error f →
    f.Known w.host.now [] ∨
      ∃ r ∈ w.tables.log, r.ReadAs (.error f) ∧ ¬ r.IsDated ∧ f.OfCalendar

lemma tables_call_of_error (hw : w.Steady) (hopen : w.IsOpen) {config : Config}
    {c : Call Interface} {f : Failure} (h : (w.call config c).1 = .error f) :
    (w.call config c).2.tables = w.tables := by
  obtain ⟨w', hexec, -, -, -, -, -, htables⟩ := exec_perform_spec hw hopen config c rfl
  rw [call, hexec] at h ⊢
  exact htables.trans (Change.after_of_outcome_error h)

lemma call_lastLogByDevice (hw : w.Steady) (hopen : w.IsOpen) (config : Config)
    (device network : String) :
    (w.call config (.lastLogByDevice device network)).1 =
      match w.tables.lastLogNamed? device network with
      | none => .error (.agent (Tables.missingLog device network))
      | some r => (History.entryOfRow r).map fun e => .entry (some e) := by
  rw [call_eq_of_isOpen hw hopen, Call.change, Change.outcome_map, Change.outcome_look,
    Tables.entryNamed, Tables.newestNamed]
  cases w.tables.lastLogNamed? device network with
  | none => rfl
  | some r =>
    simp only
    cases History.entryOfRow r <;> rfl

/-- What a call fails with because of the log comes from the calendar, if it is no agent error. -/
lemma known_or_ofCalendar {now : Int} {log : List LogRow} {f : Failure} (hf : f.Known now log) :
    f.Known now [] ∨ ∃ r ∈ log, r.ReadAs (.error f) ∧ ¬ r.IsDated ∧ f.OfCalendar := by
  cases hf with
  | agent e => exact Or.inl (.agent e)
  | integerRange => exact Or.inl .integerRange
  | clock h => exact Or.inl (.clock h)
  | @entry r _ hr h =>
    have hread := r.readAs_entryOfRow
    rw [h] at hread
    cases hread with
    | unknownOperation _ => exact Or.inl (.agent _)
    | unknownState _ _ => exact Or.inl (.agent _)
    | undated ho hs hdate hcalendar =>
      exact Or.inr ⟨r, hr, .undated ho hs hdate hcalendar, hdate, hcalendar⟩

lemma call_of_consults (hw : w.Steady) (hopen : w.IsOpen)
    (ht : w.tables.SoundButLog w.mounted.store.key) {config : Config} {c : Call Interface}
    {i : Interface} (hi : c.Consults config i) (hc : c.NamesOperation)
    (hfits : fitsColumn i.id = true) :
    (∀ last, w.tables.newestOf i.id = .ok last →
      ∀ f, (w.call config c).1 = .error f → f.Known w.host.now []) ∧
    ∀ f, w.tables.newestOf i.id = .error f →
      (w.call config c).1 = .error f ∧ (w.call config c).2.tables = w.tables := by
  obtain ⟨g, hg, hknown⟩ :=
    @Call.outcome_of_consults w.host.now _ _ _ w.host.entropy ht _ _ hi hc
  rw [← call_eq_of_isOpen hw hopen, Tables.newest_eq_newestOf hfits] at hg
  refine ⟨fun last hnewest f hf => ?_, fun f hnewest => ?_⟩
  · rw [hg, hnewest] at hf
    exact hknown last f hf
  · rw [hnewest] at hg
    exact ⟨hg, tables_call_of_error hw hopen hg⟩

/-- Whatever the log holds of a store whose tables are sound otherwise: entries are complete or
refused with parse errors, and nothing else but times without a date gets past that. -/
theorem readsLog (hw : w.Steady) (hopen : w.IsOpen)
    (ht : w.tables.SoundButLog w.mounted.store.key) : w.ReadsLog := by
  constructor
  case read => exact fun r _ => r.readAs_entryOfRow
  case named => exact call_lastLogByDevice hw hopen
  case listed =>
    intro config
    rw [call_interfaces hw hopen]
    simp only [call_interface hw hopen, Except.map_eq_ok fun _ _ => Answer.interface.inj]
    rcases ht.listed_cases hw.key with ⟨items, hitems, hall⟩ | ⟨r, hr, f, hnewest, hlisted⟩
    · exact Or.inl ⟨items, by rw [hitems]; rfl, hall⟩
    · exact Or.inr ⟨r, hr, f, hnewest, by rw [hlisted]; rfl⟩
  case handed =>
    intro i hfits
    rw [← Tables.newest_eq_newestOf hfits]
    refine ⟨fun last hnewest => ?_, fun f hnewest α callback => ?_⟩
    · exact ⟨withLog_done hw hopen hnewest,
        fun α callback => withLog_of_newest hw hopen hnewest callback⟩
    · obtain ⟨s, hs, hset⟩ := withLog_spec hw hopen i callback
      have hblock : w.block i callback = (.error f, ⟨.underWay w.tables, w.host.entropy⟩) := by
        rw [block, hnewest]
      rw [hblock] at hs hset
      rw [hs]
      exact ⟨rfl, by rw [tables_leave hw, hset.durable]; rfl⟩
  case consulted => exact fun config c i hi hc hfits => call_of_consults hw hopen ht hi hc hfits
  case failures =>
    intro config c hc f hf
    rw [call_eq_of_isOpen hw hopen] at hf
    exact known_or_ofCalendar (c.known_failure config w.host.now w.host.entropy ht hc f hf)

/-- Puts other rows into the log of a store that has no file. -/
def relog (w : Site) (rows : List LogRow) : Site :=
  { w with
    mounted :=
      { w.mounted with
        connection :=
          { w.mounted.connection with
            durable := { w.mounted.connection.durable with log := rows } } } }

lemma relog_spec (hw : Reachable w) (hopen : w.IsOpen) (hplace : w.mounted.place = none)
    (rows : List LogRow) :
    (w.relog rows).Steady ∧ (w.relog rows).IsOpen ∧
      (w.relog rows).tables.SoundButLog (w.relog rows).mounted.store.key := by
  obtain ⟨hsteady, hsound⟩ := hw.spec
  have htables : (w.relog rows).tables = { w.tables with log := rows } := by
    simp only [tables, MountedStore.durable, relog, hplace]
    rfl
  refine ⟨⟨hsteady.key, hsteady.working, hsteady.finished_lt, hsteady.place⟩, hopen, ?_⟩
  rw [htables]
  exact hsound.butLog

/-- A store without a file that has just joined a network. -/
def joinedOffice : Site :=
  let addr : Address := .v4 ⟨0, Address.fullPrefix4⟩
  let key : Bytes := List.replicate Key.size 0
  (blank.call {} (.join none key none
    { network := ⟨"", "office", addr⟩
      device := { id := "", name := "laptop", addr, publicKey := key } } "")).2

lemma reachable_joinedOffice : Reachable joinedOffice := reachable_blank.call {} _

/-- A row about the interface of that store. -/
def officeRow (operation : String) (seconds : Int) : LogRow :=
  { id := 1, seconds := some seconds, interfaceId := 1, operation, state := "joined", dirty := 1
    message := "" }

lemma relog_joinedOffice_spec (rows : List LogRow) :
    (joinedOffice.relog rows).Steady ∧ (joinedOffice.relog rows).IsOpen ∧
      (joinedOffice.relog rows).tables.SoundButLog (joinedOffice.relog rows).mounted.store.key := by
  have hopen : joinedOffice.mounted.connection.closed = false := by decide +kernel
  have hplace : joinedOffice.mounted.place = none := by decide +kernel
  exact relog_spec reachable_joinedOffice hopen hplace rows

/-- An operation that is not known is refused with a parse error, whether the entry is asked for by
names or by a call that needs it. -/
theorem readsLog_of_unknown_operation :
    let w := joinedOffice.relog [officeRow "fly" 0]
    let e : AgentError :=
      { kind := .parse, reason := .logEntry 1 "fly" "Operation", activity := some .queryLog }
    let addr : Address := .v4 ⟨0, Address.fullPrefix4⟩
    let i : Interface :=
      { id := 1, apiUrl := "", network := ⟨"", "", addr⟩
        device := { id := "", name := "", addr, publicKey := [] }, key := [], deviceToken := [] }
    (w.Steady ∧ w.IsOpen ∧ w.tables.SoundButLog w.mounted.store.key) ∧
      (w.call {} (.lastLogByDevice "laptop" "office")).1 = .error (.agent e) ∧
      (w.call {} (.needsApply i)).1 = .error (.agent e) := by
  intro w e addr i
  obtain ⟨hsteady, hopen, hsound⟩ := relog_joinedOffice_spec [officeRow "fly" 0]
  have hreads := readsLog hsteady hopen hsound
  have hrow : w.tables.lastLogNamed? "laptop" "office" = some (officeRow "fly" 0) := by
    decide +kernel
  have hnewest : w.tables.newestOf i.id = .error (.agent e) := by
    have hlast : w.tables.lastLog? i.id = some (officeRow "fly" 0) := by decide +kernel
    rw [Tables.newestOf, hlast]
    rfl
  refine ⟨⟨hsteady, hopen, hsound⟩, ?_, ?_⟩
  · rw [hreads.named, hrow]
    rfl
  · have hconsulted := (hreads.consulted {} (.needsApply i) i .needsApply trivial (by decide)).2
    exact (hconsulted _ hnewest).1

/-- A time behind the year 9999 is refused by the calendar, and not with a parse error. -/
theorem entry_of_year_10000_is_no_agent_error :
    let w := joinedOffice.relog [officeRow "join" 253402300800]
    (w.Steady ∧ w.IsOpen ∧ w.tables.SoundButLog w.mounted.store.key) ∧
      ∃ f, (w.call {} (.lastLogByDevice "laptop" "office")).1 = .error f ∧ ∀ e, f ≠ .agent e := by
  intro w
  obtain ⟨hsteady, hopen, hsound⟩ := relog_joinedOffice_spec [officeRow "join" 253402300800]
  have hrow : w.tables.lastLogNamed? "laptop" "office" =
      some (officeRow "join" 253402300800) := by decide +kernel
  refine ⟨⟨hsteady, hopen, hsound⟩, .yearRange 10000, ?_, fun _ h => nomatch h⟩
  rw [call_lastLogByDevice hsteady hopen, hrow]
  rfl

end Site

end MeshAgent
