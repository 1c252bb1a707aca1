import MeshAgent.Proofs.Store.Damaged
import MeshAgent.Proofs.Store.Evolution

/-!
# Outcomes

How a change ends is a function of the tables, and of very little in them: whether an identity is
taken, whether an interface is stored, whether an id is left, and what the newest entry of an
interface is read as. Neither the nonces of secrets nor anything else in the log matters.
-/
namespace MeshAgent

namespace Except

variable {ε α β : Type}

lemma bind_eq_error {x : Except ε α} {f : α → Except ε β} {e : ε} :
    (x >>= f) = .error e ↔ x = .error e ∨ ∃ a, x = .ok a ∧ f a = .error e := by
  cases x <;> simp [bind, Except.bind]

end Except

lemma fitsColumn_iff {n : Int} :
    fitsColumn n = true ↔ -maxInteger ≤ n + 1 ∧ n ≤ maxInteger := by
  simp [fitsColumn]

lemma orFail_eq_ok {α : Type} {x : Except AgentError α} {a : α} :
    orFail x = .ok a ↔ x = .ok a := by
  cases x <;> simp [orFail]

lemma orFail_eq_error {α : Type} {x : Except AgentError α} {f : Failure} :
    orFail x = .error f ↔ ∃ e, x = .error e ∧ f = .agent e := by
  cases x <;> simp [orFail, eq_comm]

/-- All keys of a response have the length of keys. -/
structure JoinResponse.WellKeyed (r : JoinResponse) : Prop where
  publicKey : r.device.publicKey.length = Key.size
  peerKeys : ∀ p ∈ r.peers, p.publicKey.length = Key.size

lemma JoinResponse.checkKeys_eq_ok {r : JoinResponse} {activity : Activity} :
    r.checkKeys activity = .ok () ↔ r.WellKeyed := by
  simp only [JoinResponse.checkKeys, Except.bind_eq_ok, Unique.exists_iff,
    PUnit.default_eq_unit, Key.check_eq_ok, Key.forM_check_eq_ok]
  exact ⟨fun ⟨hpublic, hpeers⟩ => ⟨hpublic, hpeers⟩, fun h => ⟨h.publicKey, h.peerKeys⟩⟩

/-- A statement, as the answer that it gives. -/
lemma Change.outcome_statement {α : Type} (activity : Activity) (entity : Option String)
    (numbers : List Int) (f : Tables → Except DatabaseProblem (Tables × α)) (t : Tables) :
    (Change.statement activity entity numbers f).outcome t =
      if numbers.any fun n => !fitsColumn n then .error .integerRange
      else DatabaseProblem.explained activity entity ((f t).map (·.2)) := by
  simp only [Change.outcome, Change.statement, StateT.run]
  split
  · rfl
  · cases f t <;> rfl

/-! ## Writes -/

/-- The numbers that a write hands to the database. -/
def Interface.numbers (i : Interface) (now : Int) : List Int :=
  i.givenId.toList ++ [now.tdiv 1000000, i.listenPort]

namespace Tables

/-- The id that a row is written under, or why the database refuses the row. -/
def accepts (t : Tables) (given : Option Int) (c : InterfaceColumns) : Except DatabaseProblem Int := do
  let id ← t.idFor given
  match t.conflict? (some id) c with
  | some i => .error (.notUnique (some i.name))
  | none => .ok id

lemma map_upsertInterface (t : Tables) (given : Option Int) (now : Int) (c : InterfaceColumns) :
    (t.upsertInterface given now c).map (·.2) = t.accepts given c := by
  rw [upsertInterface, accepts]
  cases t.idFor given with
  | error p => rfl
  | ok id =>
    simp only [bind, Except.bind]
    cases t.conflict? (some id) c <;> rfl

/-- Secrets are no part of what identifies an interface. -/
lemma conflict?_toColumns (t : Tables) (self : Option Int) (i : Interface)
    (key deviceToken : Bytes) :
    t.conflict? self (i.toColumns key deviceToken) = t.conflict? self (i.toColumns [] []) := by
  refine congrArg (fun p => Identity.all.find? p) (funext fun k => ?_)
  cases k <;> rfl

/-- How a write of an interface ends. -/
def stores (t : Tables) (now : Int) (i : Interface) : Except Failure Int := do
  orFail (i.checkKeys (.upsertInterface i.label))
  if (i.numbers now).any fun n => !fitsColumn n then .error .integerRange
  else
    DatabaseProblem.explained (.upsertInterface i.label) none
      (t.accepts i.givenId (i.toColumns [] []))

lemma accepts_sealedColumns (t : Tables) (given : Option Int) (i : Interface) (key : Bytes)
    (e : Entropy) :
    t.accepts given (i.sealedColumns key e) = t.accepts given (i.toColumns [] []) := by
  simp only [accepts, Interface.sealedColumns, conflict?_toColumns]

end Tables

namespace Change

variable {s : Store} {now : Int} {e : Entropy} {i : Interface} {t : Tables}

lemma outcome_ensure (s : Store) (now : Int) (e : Entropy) (i : Interface) (t : Tables) :
    (ensure s now e i).outcome t = (upsert s now e i).outcome t := by
  rw [outcome, run_ensure, outcome]
  cases (upsert s now e i).run t <;> rfl

theorem outcome_store (s : Store) (now : Int) (e : Entropy) (i : Interface) (t : Tables) :
    (store s now e i).outcome t = t.stores now i := by
  rw [store, Tables.stores]
  cases orFail (i.checkKeys (.upsertInterface i.label)) with
  | error f => exact outcome_of_error (run_guarded_error f _ t)
  | ok u =>
    rw [guarded_ok, outcome_ensure, upsert, outcome_statement, Tables.map_upsertInterface,
      Tables.accepts_sealedColumns]
    rfl

end Change

/-! ## Entries -/

namespace Tables

/-- The id of the next entry about an interface, or why the database refuses the entry. -/
def nextLogId (t : Tables) (interfaceId : Int) : Except DatabaseProblem Int :=
  if t.lastLogId = maxInteger then .error .idsExhausted
  else if t.hasInterface interfaceId then .ok (t.lastLogId + 1)
  else .error .noReference

lemma map_appendLog (t : Tables) (c : LogColumns) :
    (t.appendLog c).map (·.2) = t.nextLogId c.interfaceId := by
  rw [appendLog, nextLogId]
  split
  · rfl
  · split <;> rfl

/-- How adding an entry ends. -/
def appends (t : Tables) (now : Int) (i : Interface) (operation : Operation) (state : State)
    (dirty : Bool) (message : String) : Except Failure Entry :=
  (if !fitsColumn i.id then .error .integerRange
    else DatabaseProblem.explained (.appendLog i.label) (some i.label) (t.nextLogId i.id)).map
    fun id => { id, seconds := now.fdiv 1000000, operation, state, dirty, message }

end Tables

namespace Change

variable {α β : Type} {now : Int} {i : Interface} {t : Tables}

lemma outcome_bind (c : Change α) (d : α → Change β) (t : Tables) :
    (c >>= d).outcome t = c.outcome t >>= fun a => (d a).outcome (c.after t) := by
  cases h : c.outcome t with
  | error f => exact outcome_bind_error h
  | ok a => exact outcome_bind_ok h

lemma outcome_guarded (check : Except Failure β) (c : β → Change α) (t : Tables) :
    (guarded check c).outcome t = check >>= fun b => (c b).outcome t := by
  cases check <;> rfl

lemma outcome_logged (i : Interface) (c : Option Entry → Change α) (t : Tables) :
    (logged i c).outcome t = t.newest i >>= fun last => (c last).outcome t := by
  rw [logged, outcome_bind, outcome_look, after_look]

lemma outcome_append (now : Int) (i : Interface) (operation : Operation) (state : State)
    (dirty : Bool) (message : String) (t : Tables) :
    (append now i operation state dirty message).outcome t =
      t.appends now i operation state dirty message := by
  rw [append, outcome_map, outcome_statement, Tables.map_appendLog, Tables.appends]
  simp only [List.any_cons, List.any_nil, Bool.or_false]

lemma outcome_enter (now : Int) (i : Interface) (operation : Operation) (state : State)
    (dirty : Bool) (message : String) (t : Tables) :
    (enter now i operation state dirty message).outcome t =
      History.checkTime (now.fdiv 1000000) >>= fun _ =>
        t.appends now i operation state dirty message := by
  simp only [enter, outcome_guarded, outcome_append]

lemma outcome_enterNamed (now : Int) (i : Interface) (operation state : String) (dirty : Bool)
    (message : String) (t : Tables) :
    (enterNamed now i operation state dirty message).outcome t =
      History.checkNamed now operation state >>= fun names =>
        t.appends now i names.1 names.2 dirty message := by
  simp only [enterNamed, outcome_guarded, outcome_append]

end Change

namespace Tables

/-- Tables that are sound but for their log, whose rows may hold anything. -/
def SoundButLog (key : Bytes) (t : Tables) : Prop := ({ t with log := [] } : Tables).Sound key

lemma Sound.butLog {key : Bytes} {t : Tables} (ht : t.Sound key) : t.SoundButLog key where
  ordered := ht.ordered
  pos := ht.pos
  le_last := ht.le_last
  last_nonneg := ht.last_nonneg
  last_le := ht.last_le
  distinct := ht.distinct
  held := ht.held
  log_ordered := List.Pairwise.nil
  log_le := by simp
  log_readable := by simp

/-- The log has no id left for an entry about an interface. -/
def logFull (i : Interface) : AgentError :=
  DatabaseProblem.idsExhausted.toAgentError (.appendLog i.label) (some i.label)

/-- How a write together with its entry ends: nothing but a full log refuses the entry about an
interface that has just been written. -/
def records (t : Tables) (now : Int) (i : Interface) : Except Failure Interface := do
  let id ← t.stores now i
  History.checkTime (now.fdiv 1000000)
  if t.lastLogId = maxInteger then .error (.agent (logFull i)) else .ok { i with id }

end Tables

namespace Change

variable {s : Store} {now : Int} {e : Entropy} {i : Interface} {t t' : Tables} {id : Int}

/-- What has been written is there, under an id that a column holds. -/
lemma known_of_store (ht : t.SoundButLog s.key) (h : (store s now e i).run t = .ok (id, t')) :
    t'.hasInterface id = true ∧ fitsColumn id = true := by
  obtain ⟨-, hfits, t₁, hup, rfl⟩ := store_eq_ok h
  obtain ⟨hid, -, -⟩ := Tables.upsertInterface_eq_ok hup
  have hthere := Tables.hasInterface_upsert hup
  have hbounds := Tables.Orderly.idFor_bounds (Tables.Sound.orderly ht) hfits hid
  constructor
  · rw [Tables.hasInterface, Tables.interfaces_replacePeers]
    exact hthere
  · rw [fitsColumn_iff, maxInteger] at *
    omega

theorem outcome_record (ht : t.SoundButLog s.key) (now : Int) (e : Entropy) (i : Interface)
    (operation : Operation) (state : State) (message : String) :
    (record s now e i operation state message).outcome t = t.records now i := by
  rw [record, outcome_bind, outcome_store, Tables.records]
  cases hstore : t.stores now i with
  | error f => rfl
  | ok id =>
    rw [← outcome_store s now e i t] at hstore
    have hrun := outcome_eq_ok hstore
    obtain ⟨hthere, hfits⟩ := known_of_store ht hrun
    have hlast := lastLogId_stored hrun
    change (enter now { i with id } operation state true message >>= _).outcome _ = _
    simp only [outcome_bind, outcome_enter, Tables.appends, Tables.nextLogId, hthere, hfits, hlast]
    cases History.checkTime (now.fdiv 1000000) with
    | error f => rfl
    | ok u =>
      by_cases hfull : t.lastLogId = maxInteger
      · simp only [hfull, if_true]
        rfl
      · simp only [hfull, if_false]
        rfl

end Change

end MeshAgent
