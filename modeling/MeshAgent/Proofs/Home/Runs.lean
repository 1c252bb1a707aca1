import MeshAgent.Proofs.Home.Site
import MeshAgent.Proofs.Store.Lookup

/-!
# Runs

A run is a list of events. What it has written and recorded is read off its calls and their answers
alone, without a look at the tables; the tables represent it after every event.
-/
namespace MeshAgent

/-- Something that happens to a store. -/
inductive Event
  | call (config : Config) (c : Call Interface)
  | close
  | reopen
  | setClock (now : Int)

/-- What the row of an entry says about its interface: the id, and whether it was applied. -/
def LogRow.mark (r : LogRow) : Int × Bool := (r.interfaceId, r.dirty = 0)

/-- The last one of a list that is about an id. -/
def lastOn {α : Type} (about : α → Int) (l : List α) (id : Int) : Option α :=
  (l.filter fun a => about a = id).getLast?

section LastOn

variable {α : Type} {about : α → Int} {l : List α} {a : α} {id : Int}

lemma lastOn_append (l l' : List α) (id : Int) :
    lastOn about (l ++ l') id = (lastOn about l' id).or (lastOn about l id) := by
  rw [lastOn, List.filter_append, List.getLast?_append]
  rfl

lemma lastOn_singleton (a : α) : lastOn about [a] (about a) = some a := by simp [lastOn]

lemma lastOn_eq_none : lastOn about l id = none ↔ ∀ a ∈ l, about a ≠ id := by simp [lastOn]

lemma lastOn_map {β : Type} (f : β → α) (l : List β) (id : Int) :
    lastOn about (l.map f) id = (lastOn (about ∘ f) l id).map f := by
  rw [lastOn, List.filter_map, List.getLast?_map]
  rfl

lemma mem_of_lastOn (h : lastOn about l id = some a) : a ∈ l ∧ about a = id := by
  simpa using List.mem_filter.mp (List.mem_of_getLast? h)

end LastOn

lemma History.dirty_of_entryOfRow {r : LogRow} {e : Entry} (h : entryOfRow r = .ok e) :
    e.dirty = decide (r.dirty ≠ 0) := by
  rw [entryOfRow] at h
  cases hop : Operation.ofName? r.operation with
  | none => simp [hop] at h
  | some operation =>
    cases hst : State.ofName? r.state with
    | none => simp [hop, hst] at h
    | some state =>
      cases htime : checkTime (r.seconds.getD 0) with
      | error f => simp [hop, hst, htime, bind, Except.bind] at h
      | ok u =>
        simp only [hop, hst, htime] at h
        rw [← Except.ok.inj h]

namespace Tables

variable {key : Bytes} {t : Tables}

/-- The newest entry of an interface says what was recorded last. -/
lemma Sound.newest_mark (ht : t.Sound key) {i : Interface} (hi : fitsColumn i.id = true) :
    ∃ last, t.newest i = .ok last ∧
      (last.map fun e => (i.id, !e.dirty)) = lastOn Prod.fst (t.log.map LogRow.mark) i.id := by
  have hlast : lastOn Prod.fst (t.log.map LogRow.mark) i.id =
      (t.lastLog? i.id).map LogRow.mark := lastOn_map LogRow.mark t.log i.id
  rw [newest, hi, hlast]
  simp only [Bool.not_true, Bool.false_eq_true, if_false]
  cases hrow : t.lastLog? i.id with
  | none => exact ⟨none, rfl, rfl⟩
  | some r =>
    obtain ⟨hr, hid⟩ := List.mem_filter.mp (List.mem_of_getLast? hrow)
    obtain ⟨e, he⟩ := ht.log_readable r hr
    have hid : r.interfaceId = i.id := by simpa using hid
    simp only [he]
    exact ⟨some e, rfl, by simp [LogRow.mark, hid, History.dirty_of_entryOfRow he]⟩

end Tables

/-- What the tables have to do with the writes and the records so far. -/
structure Represents (key : Bytes) (t : Tables) (writes : List Interface)
    (records : List (Int × Bool)) : Prop where
  sound : t.Sound key
  holds : ∀ a, t.Holds key a ↔ lastOn Interface.id writes a.id = some a
  log : t.log.map LogRow.mark = records

namespace Represents

variable {key : Bytes} {t t' : Tables} {ws : List Interface} {rs : List (Int × Bool)}

lemma empty (key : Bytes) : Represents key {} [] [] :=
  ⟨Tables.sound_empty key, fun a => by simp [Tables.Holds, lastOn], rfl⟩

/-- One step: what was written and recorded comes last. -/
theorem effect {written : Option Interface} {recorded : Option (Int × Bool)}
    (h : Represents key t ws rs) (he : Tables.Effect key t written recorded t') :
    Represents key t' (ws ++ written.toList) (rs ++ recorded.toList) := by
  refine ⟨he.sound, fun b => ?_, ?_⟩
  · rw [he.holds b]
    cases written with
    | none => simpa using h.holds b
    | some a =>
      rw [Option.toList_some, lastOn_append]
      by_cases hid : a.id = b.id
      · simp [lastOn, hid, eq_comm]
      · have hne : b ≠ a := by
          rintro rfl
          exact hid rfl
        have hnone : lastOn Interface.id [a] b.id = none := lastOn_eq_none.mpr (by simpa using hid)
        simp [hnone, hne, Ne.symm hid, h.holds b]
  · have hlog := he.log
    cases recorded with
    | none => rw [hlog, h.log, Option.toList_none, List.append_nil]
    | some r =>
      obtain ⟨id, applied⟩ := r
      obtain ⟨row, e, hrows, hid, hread, hdirty⟩ := hlog
      rw [History.dirty_of_entryOfRow hread] at hdirty
      have happlied : decide (row.dirty = 0) = applied := by cases applied <;> simpa using hdirty
      have hmark : row.mark = (id, applied) := by rw [LogRow.mark, hid, happlied]
      simp [hrows, h.log, hmark]

end Represents

namespace Event

/-- The interface that an event at the site `w` has written. -/
def written? (w : Site) : Event → Option Interface
  | call config c => c.written? config (w.call config c).1
  | _ => none

/-- The record that an event at the site `w` has made. -/
def recorded? (w : Site) : Event → Option (Int × Bool)
  | call config c => c.recorded? (w.call config c).1
  | _ => none

end Event

namespace Site

variable {w : Site}

/-- Lets an event happen. -/
def step (w : Site) : Event → Site
  | .call config c => (w.call config c).2
  | .close => w.close
  | .reopen => w.reopen
  | .setClock now => w.setClock now

/-- Lets events happen one after the other. -/
def run : Site → List Event → Site
  | w, [] => w
  | w, e :: es => run (w.step e) es

/-- The interfaces that a run has written, in the order of the writes. -/
def writes : Site → List Event → List Interface
  | _, [] => []
  | w, e :: es => (e.written? w).toList ++ writes (w.step e) es

/-- The records that a run has made, in their order. -/
def records : Site → List Event → List (Int × Bool)
  | _, [] => []
  | w, e :: es => (e.recorded? w).toList ++ records (w.step e) es

lemma run_append (w : Site) (es es' : List Event) : w.run (es ++ es') = (w.run es).run es' := by
  induction es generalizing w with
  | nil => rfl
  | cons e es ih => exact ih (w.step e)

lemma writes_append (w : Site) (es es' : List Event) :
    w.writes (es ++ es') = w.writes es ++ (w.run es).writes es' := by
  induction es generalizing w with
  | nil => rfl
  | cons e es ih => simp [writes, run, ih]

lemma records_append (w : Site) (es es' : List Event) :
    w.records (es ++ es') = w.records es ++ (w.run es).records es' := by
  induction es generalizing w with
  | nil => rfl
  | cons e es ih => simp [records, run, ih]

/-- The tables of a steady site represent what was written and recorded. -/
structure Follows (w : Site) (ws : List Interface) (rs : List (Int × Bool)) : Prop where
  steady : w.Steady
  represents : Represents w.mounted.store.key w.tables ws rs

variable {ws : List Interface} {rs : List (Int × Bool)}

lemma follows_of_opened (hw : w.Opened) (hempty : w.tables = {}) : w.Follows [] [] :=
  ⟨(steady_of_opened hw).1, hempty ▸ Represents.empty _⟩

lemma Follows.call (h : w.Follows ws rs) (config : Config) (c : Call Interface) :
    (w.call config c).2.Follows (ws ++ (c.written? config (w.call config c).1).toList)
        (rs ++ (c.recorded? (w.call config c).1).toList) ∧
      (w.call config c).2.mounted.place = w.mounted.place := by
  by_cases hopen : w.IsOpen
  · obtain ⟨w', hexec, hsteady, -, hstore, hplace, -, htables⟩ :=
      exec_perform_spec h.steady hopen config c rfl
    have heffect := c.effect config h.steady.key w.host.now w.host.entropy h.represents.sound
    rw [Site.call, hexec]
    refine ⟨⟨hsteady, ?_⟩, hplace⟩
    rw [hstore, htables]
    exact h.represents.effect heffect
  · obtain ⟨hexec, hsteady, htables⟩ := exec_perform_of_closed h.steady hopen config c
    rw [Site.call, hexec]
    simp only [Call.written?_error, Call.recorded?_error, Option.toList_none, List.append_nil]
    refine ⟨⟨hsteady, ?_⟩, rfl⟩
    rw [htables]
    exact h.represents

/-- One event: its write and its record come last. -/
theorem Follows.step (h : w.Follows ws rs) {e : Event}
    (hfile : w.mounted.place.isSome ∨ e ≠ .reopen) :
    (w.step e).Follows (ws ++ (e.written? w).toList) (rs ++ (e.recorded? w).toList) ∧
      (w.step e).mounted.place = w.mounted.place := by
  have hsame : ∀ w' : Site, w'.Steady → w'.mounted.store = w.mounted.store →
      w'.tables = w.tables → w'.Follows (ws ++ []) (rs ++ []) := by
    intro w' hsteady hstore htables
    refine ⟨hsteady, ?_⟩
    rw [hstore, htables, List.append_nil, List.append_nil]
    exact h.represents
  cases e with
  | call config c => exact h.call config c
  | close =>
    obtain ⟨hsteady, hstore, hplace, htables⟩ := close_spec h.steady
    exact ⟨hsame _ hsteady hstore htables, hplace⟩
  | reopen =>
    have hsome : w.mounted.place.isSome = true := by simpa using hfile
    obtain ⟨hopened, hstore, hplace, htables⟩ := reopen_spec h.steady
    rw [if_pos hsome] at htables
    exact ⟨hsame _ (steady_of_opened hopened).1 hstore htables, hplace⟩
  | setClock now => exact ⟨hsame _ (setClock_spec h.steady now) rfl rfl, rfl⟩

/-- A whole run. -/
theorem Follows.run (h : w.Follows ws rs) {es : List Event}
    (hfile : w.mounted.place.isSome ∨ .reopen ∉ es) :
    (w.run es).Follows (ws ++ w.writes es) (rs ++ w.records es) ∧
      (w.run es).mounted.place = w.mounted.place := by
  induction es generalizing w ws rs with
  | nil => simpa [Site.run, writes, records] using h
  | cons e es ih =>
    have hfirst : w.mounted.place.isSome ∨ e ≠ .reopen :=
      hfile.imp_right fun hnot heq => hnot (heq ▸ List.mem_cons_self)
    obtain ⟨hstep, hplace⟩ := h.step hfirst
    have hrest : (w.step e).mounted.place.isSome ∨ .reopen ∉ es := by
      rw [hplace]
      exact hfile.imp_right fun hnot hmem => hnot (List.mem_cons_of_mem _ hmem)
    obtain ⟨hrun, hrunPlace⟩ := ih hstep hrest
    rw [List.append_assoc, List.append_assoc] at hrun
    exact ⟨hrun, hrunPlace.trans hplace⟩

end Site

end MeshAgent
