import MeshAgent.Proofs.Home.Actions

/-!
# What tables remember

Whatever is done with a store, its tables hold of each interface what was written last. This does not
take for granted that one store has written all of the tables: what other rows are sealed under, and
whether anybody can still read them, does not matter.
-/
namespace MeshAgent

namespace Tables

/-- Of each interface the tables hold what was written last. -/
structure Remembers (key : Bytes) (ws : List Interface) (t : Tables) : Prop where
  orderly : t.Orderly
  holds : ∀ a, lastOn Interface.id ws a.id = some a → fitsColumn a.id = true ∧ t.Holds key a

variable {s : Store} {key : Bytes} {t t' : Tables} {ws : List Interface} {now : Int} {e : Entropy}
  {i : Interface}

lemma Orderly.remembers (ht : t.Orderly) : t.Remembers key [] := ⟨ht, fun a ha => by cases ha⟩

/-- What was written last is read back as it was. -/
theorem Remembers.load_eq (h : t.Remembers key ws) (hk : key.length = SecretBox.keySize)
    {a : Interface} (ha : lastOn Interface.id ws a.id = some a) : t.load key a.id = .ok a := by
  obtain ⟨hfits, hholds⟩ := h.holds a ha
  exact h.orderly.load_eq hk hfits hholds

lemma Orderly.fits_of_stored (ht : t.Orderly) {id : Int}
    (h : (Change.store s now e i).run t = .ok (id, t')) : fitsColumn id = true := by
  obtain ⟨-, hfits, t₁, hup, -⟩ := Change.store_eq_ok h
  obtain ⟨hid, -, -⟩ := upsertInterface_eq_ok hup
  obtain ⟨hpos, hmax, -⟩ := ht.idFor_bounds hfits hid
  simp only [fitsColumn, Bool.and_eq_true, decide_eq_true_eq]
  rw [maxInteger] at hmax ⊢
  omega

lemma Remembers.stored (h : t.Remembers s.key ws) {id : Int}
    (hrun : (Change.store s now e i).run t = .ok (id, t')) :
    t'.Remembers s.key (ws ++ [{ i with id }]) := by
  obtain ⟨horderly, hholds, hothers⟩ := h.orderly.stored hrun
  refine ⟨horderly, fun a ha => ?_⟩
  rw [lastOn_append] at ha
  by_cases hid : a.id = id
  · subst hid
    have hlast := @lastOn_singleton _ Interface.id { i with id := a.id }
    rw [hlast, Option.some_or, Option.some.injEq] at ha
    rw [ha] at hholds
    exact ⟨h.orderly.fits_of_stored hrun, hholds⟩
  · have hnone : lastOn Interface.id [{ i with id }] a.id = none :=
      lastOn_eq_none.mpr (by simpa using Ne.symm hid)
    rw [hnone, Option.none_or] at ha
    obtain ⟨hfits, hold⟩ := h.holds a ha
    exact ⟨hfits, (hothers _ a hid).mpr hold⟩

lemma Remembers.entered (h : t.Remembers key ws) {operation : Operation} {state : State}
    {dirty : Bool} {message : String} {entry : Entry}
    (hrun : (Change.append now i operation state dirty message).run t = .ok (entry, t')) :
    t'.Remembers key ws := by
  obtain ⟨-, -, -, rfl⟩ := Change.append_eq_ok hrun
  exact ⟨⟨h.orderly.ordered, h.orderly.last_nonneg, h.orderly.last_le⟩, h.holds⟩

end Tables

open Change in
/-- What a call writes is remembered. -/
theorem Call.remembers (config : Config) {s : Store} (now : Int) (e : Entropy) {t : Tables}
    {ws : List Interface} (h : t.Remembers s.key ws) (c : Call Interface) :
    ((c.change config s now e).after t).Remembers s.key
      (ws ++ (c.written? config ((c.change config s now e).outcome t)).toList) := by
  cases hrun : (c.change config s now e).run t with
  | error f =>
    rw [outcome_of_error hrun, after_of_error hrun, written?_error, Option.toList_none,
      List.append_nil]
    exact h
  | ok r =>
    rw [outcome_of_ok hrun, after_of_ok hrun]
    cases c.did hrun with
    | looked htold =>
      rw [htold.written, Option.toList_none, List.append_nil]
      exact h
    | stored hstore htold =>
      rw [htold.written]
      exact h.stored hstore
    | entered hclock happend htold =>
      rw [htold.written, Option.toList_none, List.append_nil]
      exact h.entered happend
    | both hstore hclock happend htold =>
      rw [htold.written]
      exact (h.stored hstore).entered happend

/-! ## Callbacks -/

open Transaction

/-- The interface that a step has written, under the id that it had or has got. -/
def HandleCall.written? : HandleCall Interface → Except Failure Answer → Option Interface
  | ensure i, .ok (.id id) => some { i with id }
  | _, _ => none

namespace Callback

variable {α : Type} {s : Store} {now : Int} {before : Tables} {ws l : List Interface}

/-- The interfaces that have been written for good after a callback, where those of `l` were written
before it. -/
def writesAfter (s : Store) (now : Int) (before : Tables) :
    Callback α → Progress → List Interface → List Interface
  | done _, _, l => l
  | fail _, _, l => l
  | step c next, m, l =>
    (next (c.effect s now before m).1).writesAfter s now before (c.effect s now before m).2
      (m.phase.entriesAfter (c.effect s now before m).2.phase l
        (c.written? (c.effect s now before m).1).toList)

/-- In the course of a callback the tables remember what its steps write. -/
theorem remembers_course (b : Callback α) (hbefore : before.Remembers s.key ws) {m : Progress}
    (hm : m.phase.All fun t => t.Remembers s.key (ws ++ l)) :
    (b.course s now before m).2.phase.All fun t =>
      t.Remembers s.key (ws ++ b.writesAfter s now before m l) := by
  induction b generalizing m l with
  | done a => exact hm
  | fail f => exact hm
  | step c next ih =>
    refine ih _ (c.all_effect (P := fun l t => t.Remembers s.key (ws ++ l)) (by simpa using hbefore)
      (fun r => (c.written? r).toList) ?_ ?_ ?_ ?_ hm)
    case refine_1 =>
      intro f
      cases c <;> rfl
    case refine_2 =>
      intro hc r
      cases c with
      | ensure i => cases hc
      | _ => rfl
    case refine_3 =>
      rintro i rfl t t' id - ht hstore
      rw [← List.append_assoc]
      exact ht.stored hstore
    case refine_4 =>
      rintro i operation state dirty message rfl t t' names e - ht - happend
      simpa [HandleCall.written?] using ht.entered happend

end Callback

namespace Site

variable {w : Site} {ws : List Interface}

/-- The interfaces that a callback has written for good when a block that begins now is left. -/
def writtenIn (w : Site) (callback : Callback Unit) : List Interface :=
  callback.writesAfter w.mounted.store w.host.now w.tables ⟨.underWay w.tables, w.host.entropy⟩ []

/-- The interfaces that an action writes for good. -/
def written (w : Site) : Action → List Interface
  | .event e => (e.written? w).toList
  | .withLog i callback =>
    if w.mounted.connection.closed then []
    else
      match w.tables.newest i with
      | .ok last => (w.block i callback).2.phase.kept (w.writtenIn (callback last))
      | .error _ => []
  | .transaction _ callback =>
    if w.mounted.connection.closed then []
    else (w.course callback).2.phase.kept (w.writtenIn callback)

lemma remembers_course (h : w.tables.Remembers w.mounted.store.key ws) (callback : Callback Unit) :
    (w.course callback).2.phase.All fun t =>
      t.Remembers w.mounted.store.key (ws ++ w.writtenIn callback) := by
  refine callback.remembers_course (m := ⟨.underWay w.tables, w.host.entropy⟩) h ?_
  change w.tables.Remembers _ (ws ++ [])
  rwa [List.append_nil]

lemma remembers_call (hw : w.Steady) (h : w.tables.Remembers w.mounted.store.key ws)
    (config : Config) (c : Call Interface) :
    (w.call config c).2.tables.Remembers w.mounted.store.key
      (ws ++ (c.written? config (w.call config c).1).toList) := by
  by_cases hopen : w.IsOpen
  · obtain ⟨w', hexec, -, -, -, -, -, htables⟩ := exec_perform_spec hw hopen config c rfl
    rw [call, hexec]
    rw [htables]
    exact c.remembers config w.host.now w.host.entropy h
  · obtain ⟨hexec, -, htables⟩ := exec_perform_of_closed hw hopen config c
    rw [call, hexec, Call.written?_error, Option.toList_none, List.append_nil, htables]
    exact h

/-- What an action writes is remembered, as long as the tables outlast the connection. -/
theorem remembers_act (hw : w.Steady) (h : w.tables.Remembers w.mounted.store.key ws) {a : Action}
    (hfile : w.mounted.place.isSome ∨ a ≠ .event .reopen) :
    (w.act a).2.tables.Remembers w.mounted.store.key (ws ++ w.written a) := by
  have hbefore : w.tables.Remembers w.mounted.store.key (ws ++ []) := by rwa [List.append_nil]
  cases a with
  | event e =>
    cases e with
    | call config c => exact remembers_call hw h config c
    | close =>
      obtain ⟨-, -, -, htables⟩ := close_spec hw
      exact htables ▸ hbefore
    | reopen =>
      have hsome : w.mounted.place.isSome = true := by simpa using hfile
      obtain ⟨-, -, -, htables⟩ := reopen_spec hw
      rw [if_pos hsome] at htables
      exact htables ▸ hbefore
    | setClock now => exact hbefore
  | withLog i callback =>
    exact all_withLog (P := fun l t => t.Remembers w.mounted.store.key (ws ++ l)) hw hbefore
      (remembers_course h) i callback
  | transaction write callback =>
    exact all_transaction (P := fun l t => t.Remembers w.mounted.store.key (ws ++ l)) hw hbefore
      (remembers_course h) write callback

/-- An interface that an open store remembers is read back as it was written. -/
theorem call_interface_of_remembers (hw : w.Steady) (hopen : w.IsOpen)
    (h : w.tables.Remembers w.mounted.store.key ws) {a : Interface}
    (ha : lastOn Interface.id ws a.id = some a) (config : Config) :
    (w.call config (.interface a.id)).1 = .ok (.interface a) := by
  obtain ⟨w', hexec, -⟩ := exec_perform_spec hw hopen config (.interface a.id) rfl
  rw [call, hexec]
  change ((Call.interface a.id).change config _ _ _).outcome w.tables = _
  rw [Call.change, Change.outcome_map, Change.outcome_look, h.load_eq hw.key ha]
  rfl

end Site

end MeshAgent
