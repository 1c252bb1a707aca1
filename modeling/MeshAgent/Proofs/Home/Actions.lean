import MeshAgent.Proofs.Home.Reachable
import MeshAgent.Proofs.Home.Runs

/-!
# Actions

An action is an event or a block with a callback. Its history is read off what calls and the steps of
callbacks have answered; the tables evolve by it, one action after the other.
-/
namespace MeshAgent

/-- Something that is done with a store. -/
inductive Action
  | event (e : Event)
  | withLog (i : Interface) (callback : Option Entry → Callback Unit)
  | transaction (write : Bool) (callback : Callback Unit)

namespace Transaction.Phase

variable {α : Type} {t : Tables}

/-- What stays of a list that was made in the course of a transaction, when its block is left. -/
def kept (l : List α) : Phase → List α
  | committed _ => l
  | ended _ _ => l
  | _ => []

/-- What holds of the tables together with what was noted about them also holds of what stays of both. -/
lemma All.kept {P : List α → Tables → Prop} {l : List α} {p : Phase} (hp : p.All (P l))
    (hbefore : P [] t) : P (p.kept l) (p.durable t) := by
  cases p with
  | committed t' => exact hp
  | ended finished t' => exact hp
  | underWay t' => exact hbefore
  | rolledBack => exact hbefore

end Transaction.Phase

namespace Site

open Transaction

variable {α : Type} {w w' v : Site}

/-- The entries that the steps of a callback answer in a block that begins now. -/
def answered (w : Site) (callback : Callback α) : List (Int × Entry) :=
  callback.entries w.mounted.store w.host.now w.tables ⟨.underWay w.tables, w.host.entropy⟩

/-- Carries out an action: how it ends, and the site that it leaves. -/
def act (w : Site) : Action → Except Failure Answer × Site
  | .event (.call config c) => w.call config c
  | .event e => (.ok .nothing, w.step e)
  | .withLog i callback =>
    ((w.withLog i callback).1.map fun _ => .nothing, (w.withLog i callback).2)
  | .transaction write callback =>
    ((w.transaction write callback).1.map fun _ => .nothing, (w.transaction write callback).2)

/-- The entries that an action adds for good, each with the id of its interface. -/
def entries (w : Site) : Action → List (Int × Entry)
  | .event (.call config c) =>
    (c.entered? w.host.now (w.tables.lastLogId + 1) (w.call config c).1).toList
  | .event _ => []
  | .withLog i callback =>
    if w.mounted.connection.closed then []
    else
      match w.tables.newest i with
      | .ok last => (w.block i callback).2.phase.kept (w.lasting (callback last))
      | .error _ => []
  | .transaction _ callback =>
    if w.mounted.connection.closed then []
    else (w.course callback).2.phase.kept (w.lasting callback)

/-- Carries out actions one after the other. -/
def carryOut : Site → List Action → Site
  | w, [] => w
  | w, a :: as => carryOut (w.act a).2 as

/-- The entries that actions add for good, in their order. -/
def history : Site → List Action → List (Int × Entry)
  | _, [] => []
  | w, a :: as => w.entries a ++ history (w.act a).2 as

lemma carryOut_append (w : Site) (as as' : List Action) :
    w.carryOut (as ++ as') = (w.carryOut as).carryOut as' := by
  induction as generalizing w with
  | nil => rfl
  | cons a as ih => exact ih (w.act a).2

/-- The tables of the site `w` have evolved to those of `w'`, by the given entries. -/
structure Advances (w : Site) (es : List (Int × Entry)) (w' : Site) : Prop where
  steady : w'.Steady
  store : w'.mounted.store = w.mounted.store
  place : w'.mounted.place = w.mounted.place
  evolves : w.tables.Evolves w.mounted.store es w'.tables

lemma Advances.trans {es es' : List (Int × Entry)} (h : w.Advances es w') (h' : w'.Advances es' v) :
    w.Advances (es ++ es') v :=
  ⟨h'.steady, h'.store.trans h.store, h'.place.trans h.place,
    h.evolves.trans (h.store ▸ h'.evolves)⟩

lemma Advances.sound {es : List (Int × Entry)} (h : w.Advances es w')
    (hw : w.tables.Sound w.mounted.store.key) : w'.tables.Sound w'.mounted.store.key := by
  rw [h.store]
  exact hw.evolves h.evolves

lemma advances_same (hsteady : w'.Steady) (hstore : w'.mounted.store = w.mounted.store)
    (hplace : w'.mounted.place = w.mounted.place) (htables : w'.tables = w.tables) :
    w.Advances [] w' := ⟨hsteady, hstore, hplace, htables ▸ .refl⟩

lemma advances_leave_self (hw : w.Steady) : w.Advances [] (w.leave w.state) :=
  advances_same (steady_leave hw rfl hw.idle) rfl rfl (tables_leave hw _)

lemma advances_call (hw : w.Steady) (config : Config) (c : Call Interface) :
    w.Advances (c.entered? w.host.now (w.tables.lastLogId + 1) (w.call config c).1).toList
      (w.call config c).2 := by
  by_cases hopen : w.IsOpen
  · obtain ⟨w', hexec, hsteady, -, hstore, hplace, -, htables⟩ :=
      exec_perform_spec hw hopen config c rfl
    rw [call, hexec]
    refine ⟨hsteady, hstore, hplace, ?_⟩
    rw [htables]
    exact c.evolves config w.mounted.store w.host.now w.host.entropy w.tables
  · obtain ⟨hexec, -⟩ := exec_perform_of_closed hw hopen config c
    rw [call, hexec, Call.entered?_error]
    exact advances_leave_self hw

section Blocks

variable {γ : Type} {P : List γ → Tables → Prop} {noted : Callback Unit → List γ}

/-- What holds of the tables in the course of a callback, together with what the callback has noted
about them, holds of the tables that are durable after its block. -/
lemma all_transaction (hw : w.Steady) (hbefore : P [] w.tables)
    (hcourse : ∀ b, (w.course b).2.phase.All (P (noted b))) (write : Bool)
    (callback : Callback Unit) :
    P (if w.mounted.connection.closed then [] else (w.course callback).2.phase.kept (noted callback))
      (w.transaction write callback).2.tables := by
  by_cases hopen : w.IsOpen
  · obtain ⟨s, hs, hset⟩ := transaction_spec hw hopen write callback
    have hclosed : w.mounted.connection.closed = false := hopen
    rw [hs, tables_leave hw, hset.durable, hclosed, if_neg Bool.false_ne_true]
    exact (hcourse callback).kept hbefore
  · have hclosed : w.mounted.connection.closed = true := closed_of_not_isOpen hopen
    rw [transaction_of_closed hopen, tables_leave hw, durable_state, if_pos hclosed]
    exact hbefore

lemma all_withLog (hw : w.Steady) (hbefore : P [] w.tables)
    (hcourse : ∀ b, (w.course b).2.phase.All (P (noted b))) (i : Interface)
    (callback : Option Entry → Callback Unit) :
    P (if w.mounted.connection.closed then []
      else match w.tables.newest i with
        | .ok last => (w.block i callback).2.phase.kept (noted (callback last))
        | .error _ => [])
      (w.withLog i callback).2.tables := by
  by_cases hopen : w.IsOpen
  · obtain ⟨s, hs, hset⟩ := withLog_spec hw hopen i callback
    have hclosed : w.mounted.connection.closed = false := hopen
    rw [hs, tables_leave hw, hset.durable, hclosed, if_neg Bool.false_ne_true]
    cases hlast : w.tables.newest i with
    | error f =>
      rw [block, hlast]
      exact hbefore
    | ok last =>
      have hblock : (w.block i callback).2.phase.All (P (noted (callback last))) := by
        rw [block, hlast]
        exact Progress.all_close (hcourse (callback last))
      exact hblock.kept hbefore
  · have hclosed : w.mounted.connection.closed = true := closed_of_not_isOpen hopen
    rw [withLog_of_closed hopen, tables_leave hw, durable_state, if_pos hclosed]
    exact hbefore

end Blocks

lemma advances_withLog (hw : w.Steady) (i : Interface) (callback : Option Entry → Callback Unit) :
    w.Advances (w.entries (.withLog i callback)) (w.withLog i callback).2 :=
  ⟨(kept_withLog hw i callback).steady, (kept_withLog hw i callback).store, rfl,
    all_withLog hw .refl (evolves_course w) i callback⟩

lemma advances_transaction (hw : w.Steady) (write : Bool) (callback : Callback Unit) :
    w.Advances (w.entries (.transaction write callback)) (w.transaction write callback).2 :=
  ⟨(kept_transaction hw write callback).steady, (kept_transaction hw write callback).store, rfl,
    all_transaction hw .refl (evolves_course w) write callback⟩

/-- One action, as long as the tables outlast the connection. -/
theorem advances_act (hw : w.Steady) {a : Action}
    (hfile : w.mounted.place.isSome ∨ a ≠ .event .reopen) :
    w.Advances (w.entries a) (w.act a).2 := by
  cases a with
  | event e =>
    cases e with
    | call config c => exact advances_call hw config c
    | close =>
      obtain ⟨hsteady, hstore, hplace, htables⟩ := close_spec hw
      exact advances_same hsteady hstore hplace htables
    | reopen =>
      have hsome : w.mounted.place.isSome = true := by simpa using hfile
      obtain ⟨hopened, hstore, hplace, htables⟩ := reopen_spec hw
      rw [if_pos hsome] at htables
      exact advances_same (steady_of_opened hopened).1 hstore hplace htables
    | setClock now => exact advances_same (setClock_spec hw now) rfl rfl rfl
  | withLog i callback => exact advances_withLog hw i callback
  | transaction write callback => exact advances_transaction hw write callback

/-- A whole run of actions. -/
theorem advances_carryOut (hw : w.Steady) {as : List Action}
    (hfile : w.mounted.place.isSome ∨ .event .reopen ∉ as) :
    w.Advances (w.history as) (w.carryOut as) := by
  induction as generalizing w with
  | nil => exact advances_same hw rfl rfl rfl
  | cons a as ih =>
    have hfirst : w.mounted.place.isSome ∨ a ≠ .event .reopen :=
      hfile.imp_right fun hnot heq => hnot (heq ▸ List.mem_cons_self)
    have hstep := advances_act hw hfirst
    have hrest : (w.act a).2.mounted.place.isSome ∨ .event .reopen ∉ as := by
      rw [hstep.place]
      exact hfile.imp_right fun hnot hmem => hnot (List.mem_cons_of_mem _ hmem)
    exact hstep.trans (ih hstep.steady hrest)

lemma reachable_act (hw : Reachable w) (a : Action) : Reachable (w.act a).2 := by
  cases a with
  | event e =>
    cases e with
    | call config c => exact hw.call config c
    | close => exact hw.close
    | reopen => exact hw.reopen
    | setClock now => exact hw.setClock now
  | withLog i callback => exact hw.withLog i callback
  | transaction write callback => exact hw.transaction write callback

lemma reachable_carryOut (hw : Reachable w) (as : List Action) : Reachable (w.carryOut as) := by
  induction as generalizing w with
  | nil => exact hw
  | cons a as ih => exact ih (reachable_act hw a)

/-- The site comes about by actions on a store that begins empty and keeps its tables. -/
def Comes (v : Site) : Prop :=
  ∃ (w : Site) (as : List Action), w.Opened ∧ w.tables = {} ∧
    (w.mounted.place.isSome ∨ .event .reopen ∉ as) ∧ v = w.carryOut as

lemma Comes.act (hv : v.Comes) {a : Action} (hfile : v.mounted.place.isSome ∨ a ≠ .event .reopen) :
    (v.act a).2.Comes := by
  obtain ⟨w, as, hw, hempty, hbefore, rfl⟩ := hv
  refine ⟨w, as ++ [a], hw, hempty, ?_, by rw [carryOut_append]; rfl⟩
  rw [(advances_carryOut (steady_of_opened hw).1 hbefore).place] at hfile
  rcases hbefore with hsome | hnot
  · exact .inl hsome
  · refine hfile.imp_right fun hne hmem => ?_
    rcases List.mem_append.mp hmem with hmem | hmem
    · exact hnot hmem
    · exact hne (List.mem_singleton.mp hmem).symm

/-- Every reachable site comes about in this way: a store without a file begins empty again when it is
opened again. -/
theorem Reachable.comes (h : Reachable v) : v.Comes := by
  have hopened : ∀ {w : Site}, w.Opened → w.tables = {} → w.Comes := fun {w} hw hempty =>
    ⟨w, [], hw, hempty, .inr (by simp), rfl⟩
  induction h with
  | opened hw hempty => exact hopened hw hempty
  | call config c _ ih => exact @Comes.act _ ih (.event (.call config c)) (.inr (by simp))
  | withLog i callback _ ih => exact @Comes.act _ ih (.withLog i callback) (.inr (by simp))
  | transaction write callback _ ih =>
    exact @Comes.act _ ih (.transaction write callback) (.inr (by simp))
  | close _ ih => exact @Comes.act _ ih (.event .close) (.inr (by simp))
  | @reopen v hv ih =>
    by_cases hfile : v.mounted.place.isSome
    · exact @Comes.act _ ih (.event .reopen) (.inl hfile)
    · obtain ⟨hw, -, -, htables⟩ := reopen_spec hv.spec.1
      rw [if_neg hfile] at htables
      exact hopened hw htables
  | setClock now _ ih => exact @Comes.act _ ih (.event (.setClock now)) (.inr (by simp))

/-- The tables of every reachable site have evolved from empty ones. -/
theorem Reachable.evolves (h : Reachable v) :
    ∃ es, Tables.Evolves v.mounted.store {} es v.tables := by
  obtain ⟨w, as, hw, hempty, hfile, rfl⟩ := h.comes
  have hadvances := advances_carryOut (steady_of_opened hw).1 hfile
  refine ⟨w.history as, ?_⟩
  rw [hadvances.store, ← hempty]
  exact hadvances.evolves

end Site

end MeshAgent
