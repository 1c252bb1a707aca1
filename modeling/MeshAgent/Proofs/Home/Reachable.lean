import MeshAgent.Proofs.Home.Site
import MeshAgent.Proofs.Store.Evolution

/-!
# Reachable sites

A site is reachable if its store was opened on an empty database and has been used since then in any
way: through calls, through blocks with any callback, closed, and opened again. What its tables hold
is sound, and no transaction is left under way.
-/
namespace MeshAgent

namespace Transaction

variable {α : Type}

lemma Progress.all_close {P : Tables → Prop} {r : Except Failure α × Progress}
    (hr : r.2.phase.All P) : (Progress.close r).2.phase.All P := by
  obtain ⟨_ | a, ⟨phase, e⟩⟩ := r
  · exact hr
  · cases phase <;> exact hr

end Transaction

namespace Site

open Transaction

variable {α : Type} {w : Site}

/-- What an operation of the store keeps: the store is steady, and its tables stay sound. -/
structure Kept (w w' : Site) : Prop where
  steady : w'.Steady
  store : w'.mounted.store = w.mounted.store
  sound : w.tables.Sound w.mounted.store.key → w'.tables.Sound w.mounted.store.key

lemma kept_leave_self (hw : w.Steady) : Kept w (w.leave w.state) :=
  ⟨steady_leave hw rfl hw.idle, rfl, fun hsound => by rwa [tables_leave hw]⟩

lemma kept_settled (hw : w.Steady) {d : Tables} {e : Entropy} {s : StoreState}
    (hset : Settled w.state d e s)
    (hd : w.tables.Sound w.mounted.store.key → d.Sound w.mounted.store.key) :
    Kept w (w.leave s) := by
  refine ⟨steady_leave hw hset.store hset.idle, hset.store, fun hsound => ?_⟩
  rw [tables_leave hw, hset.durable]
  exact hd hsound

/-- Runs a callback in a block with the newest entry of an interface at hand. -/
def withLog (w : Site) (i : Interface) (callback : Option Entry → Callback α) :
    Except Failure α × Site :=
  w.exec (Store.logged i fun h last => (callback last).run h)

/-- Runs a callback in a block that commits only what the callback commits. -/
def transaction (w : Site) (write : Bool) (callback : Callback α) : Except Failure α × Site :=
  w.exec (Transaction.scope (fun x => x) write fun h => callback.run h)

/-- The course of a callback in a block that begins now. -/
def course (w : Site) (callback : Callback α) : Except Failure α × Progress :=
  callback.course w.mounted.store w.host.now w.tables ⟨.underWay w.tables, w.host.entropy⟩

/-- The entries that a callback has added, and that are there when a block that begins now is left. -/
def lasting (w : Site) (callback : Callback α) : List (Int × Entry) :=
  callback.entriesAfter w.mounted.store w.host.now w.tables ⟨.underWay w.tables, w.host.entropy⟩ []

lemma evolves_course (w : Site) (callback : Callback α) :
    (w.course callback).2.phase.All (w.tables.Evolves w.mounted.store (w.lasting callback)) :=
  callback.evolves_course (m := ⟨.underWay w.tables, w.host.entropy⟩) .refl

/-- No callback leaves unsound tables behind, also not in the middle of its course. -/
lemma sound_course (hsound : w.tables.Sound w.mounted.store.key) (callback : Callback α) :
    (w.course callback).2.phase.All (Tables.Sound w.mounted.store.key) :=
  (w.evolves_course callback).imp fun _ h => hsound.evolves h

lemma leads_course (hw : w.Steady) (callback : Callback α) :
    Leads w.state w.state.begun (callback.run w.state.begun)
      ⟨.underWay w.state.connection.durable, w.state.entropy⟩ (w.course callback) :=
  leads_callback hw.key callback _

/-- What a block with a callback comes to, the commit at its end included. -/
def block (w : Site) (i : Interface) (callback : Option Entry → Callback α) :
    Except Failure α × Progress :=
  match w.tables.newest i with
  | .ok last => Progress.close (w.course (callback last))
  | .error f => (.error f, ⟨.underWay w.tables, w.host.entropy⟩)

lemma sound_block (hsound : w.tables.Sound w.mounted.store.key) (i : Interface)
    (callback : Option Entry → Callback α) :
    (w.block i callback).2.phase.All (Tables.Sound w.mounted.store.key) := by
  rw [block]
  split
  · exact Progress.all_close (sound_course hsound _)
  · exact hsound

/-- An open store carries a block out. -/
lemma withLog_spec (hw : w.Steady) (hopen : w.IsOpen) (i : Interface)
    (callback : Option Entry → Callback α) :
    ∃ s, w.withLog i callback = ((w.block i callback).1, w.leave s) ∧
      Settled w.state ((w.block i callback).2.phase.durable w.tables)
        (w.block i callback).2.entropy s := by
  rw [withLog, exec_eq, block]
  cases hlast : w.tables.newest i with
  | error f =>
    obtain ⟨s, hs, hset⟩ := @exec_logged_of_error _ i (fun h last => (callback last).run h) w.state f
      hw.idle hopen hlast
    exact ⟨s, by rw [hs], hset⟩
  | ok last =>
    obtain ⟨s, hs, hset⟩ := @exec_logged _ i (fun h last => (callback last).run h) w.state last _
      hw.idle hopen hlast (leads_course hw (callback last))
    exact ⟨s, by rw [hs], hset⟩

lemma transaction_spec (hw : w.Steady) (hopen : w.IsOpen) (write : Bool) (callback : Callback α) :
    ∃ s, w.transaction write callback = ((w.course callback).1, w.leave s) ∧
      Settled w.state ((w.course callback).2.phase.durable w.tables)
        (w.course callback).2.entropy s := by
  obtain ⟨s, hs, hset⟩ := @exec_scope_id _ (fun h => callback.run h) w.state _ write hw.idle hopen
    (leads_course hw callback)
  exact ⟨s, by rw [transaction, exec_eq, hs], hset⟩

/-- A closed store begins no block. -/
lemma exec_scope_of_closed (hclosed : ¬ w.IsOpen) (write : Bool) (body : Handle → StoreM α) :
    w.exec (scope (fun x => x) write body) =
      (.error (.agent (closedError w.mounted.store)), w.leave w.state) := by
  rw [exec_eq, Transaction.exec_scope_of_closed (closed_of_not_isOpen hclosed)]
  rfl

lemma withLog_of_closed (hclosed : ¬ w.IsOpen) (i : Interface)
    (callback : Option Entry → Callback α) :
    w.withLog i callback = (.error (.agent (closedError w.mounted.store)), w.leave w.state) :=
  exec_scope_of_closed hclosed true _

lemma transaction_of_closed (hclosed : ¬ w.IsOpen) (write : Bool) (callback : Callback α) :
    w.transaction write callback =
      (.error (.agent (closedError w.mounted.store)), w.leave w.state) :=
  exec_scope_of_closed hclosed write _

lemma kept_withLog (hw : w.Steady) (i : Interface) (callback : Option Entry → Callback α) :
    Kept w (w.withLog i callback).2 := by
  by_cases hopen : w.IsOpen
  · obtain ⟨s, hs, hset⟩ := withLog_spec hw hopen i callback
    rw [hs]
    exact kept_settled hw hset fun hsound => (sound_block hsound i callback).durable hsound
  · rw [withLog_of_closed hopen]
    exact kept_leave_self hw

lemma kept_transaction (hw : w.Steady) (write : Bool) (callback : Callback α) :
    Kept w (w.transaction write callback).2 := by
  by_cases hopen : w.IsOpen
  · obtain ⟨s, hs, hset⟩ := transaction_spec hw hopen write callback
    rw [hs]
    exact kept_settled hw hset fun hsound => (sound_course hsound callback).durable hsound
  · rw [transaction_of_closed hopen]
    exact kept_leave_self hw

lemma kept_call (hw : w.Steady) (config : Config) (c : Call Interface) :
    Kept w (w.call config c).2 := by
  by_cases hopen : w.IsOpen
  · obtain ⟨w', hexec, hsteady, -, hstore, -, -, htables⟩ :=
      exec_perform_spec hw hopen config c rfl
    rw [call, hexec]
    refine ⟨hsteady, hstore, fun hsound => ?_⟩
    rw [htables]
    exact (c.effect config hw.key w.host.now w.host.entropy hsound).sound
  · obtain ⟨hexec, -, -⟩ := exec_perform_of_closed hw hopen config c
    rw [call, hexec]
    exact kept_leave_self hw

lemma kept_close (hw : w.Steady) : Kept w w.close := by
  obtain ⟨hsteady, hstore, -, htables⟩ := close_spec hw
  exact ⟨hsteady, hstore, fun hsound => by rwa [htables]⟩

lemma kept_reopen (hw : w.Steady) : Kept w w.reopen := by
  obtain ⟨hopened, hstore, -, htables⟩ := reopen_spec hw
  refine ⟨(steady_of_opened hopened).1, hstore, fun hsound => ?_⟩
  rw [htables]
  split
  · exact hsound
  · exact Tables.sound_empty _

lemma kept_setClock (hw : w.Steady) (now : Int) : Kept w (w.setClock now) :=
  ⟨setClock_spec hw now, rfl, id⟩

/-- A site that comes about by using a store that was opened on an empty database. -/
inductive Reachable : Site → Prop
  | opened {w : Site} : w.Opened → w.tables = {} → Reachable w
  | call {w : Site} (config : Config) (c : Call Interface) :
    Reachable w → Reachable (w.call config c).2
  | withLog {w : Site} (i : Interface) (callback : Option Entry → Callback Unit) :
    Reachable w → Reachable (w.withLog i callback).2
  | transaction {w : Site} (write : Bool) (callback : Callback Unit) :
    Reachable w → Reachable (w.transaction write callback).2
  | close {w : Site} : Reachable w → Reachable w.close
  | reopen {w : Site} : Reachable w → Reachable w.reopen
  | setClock {w : Site} (now : Int) : Reachable w → Reachable (w.setClock now)

lemma Kept.spec {w' : Site} (h : Kept w w')
    (hw : w.Steady ∧ w.tables.Sound w.mounted.store.key) :
    w'.Steady ∧ w'.tables.Sound w'.mounted.store.key :=
  ⟨h.steady, by rw [h.store]; exact h.sound hw.2⟩

/-- Every reachable site is steady and holds sound tables. -/
theorem Reachable.spec (h : Reachable w) : w.Steady ∧ w.tables.Sound w.mounted.store.key := by
  induction h with
  | opened hopened hempty => exact ⟨(steady_of_opened hopened).1, hempty ▸ Tables.sound_empty _⟩
  | call config c _ ih => exact (kept_call ih.1 config c).spec ih
  | withLog i callback _ ih => exact (kept_withLog ih.1 i callback).spec ih
  | transaction write callback _ ih => exact (kept_transaction ih.1 write callback).spec ih
  | close _ ih => exact (kept_close ih.1).spec ih
  | reopen _ ih => exact (kept_reopen ih.1).spec ih
  | setClock now _ ih => exact (kept_setClock ih.1 now).spec ih

lemma reachable_inMemory {key : Bytes} (hk : key.length = SecretBox.keySize) (host : Host) :
    Reachable (inMemory key host) := .opened (opened_inMemory hk host) rfl

lemma reachable_blank : Reachable blank := reachable_inMemory rfl _

end Site

end MeshAgent
