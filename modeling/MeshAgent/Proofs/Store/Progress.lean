import Mathlib.Tactic.Lemma
import MeshAgent.Agent.Call

/-!
# Progress of a transaction

An operation of a store ends with an outcome in a new state. Of the states in the course of a
transaction only three things matter: the phase of the transaction, the tables that belong to the
phase, and the position of the random source. `Leads` says that an operation takes a transaction
from one such progress to another one, whatever else the state holds.
-/
namespace MeshAgent

section

variable {σ α β : Type} {s : σ}

/-- How a computation ends, and the state that it leaves. -/
def exec (x : ExceptT Failure (StateM σ) α) (s : σ) : Except Failure α × σ := x.run s

@[simp] lemma exec_pure (a : α) : exec (pure a) s = (.ok a, s) := rfl
@[simp] lemma exec_throw (f : Failure) :
    exec (throw f : ExceptT Failure (StateM σ) α) s = (.error f, s) := rfl
@[simp] lemma exec_get : exec (get : ExceptT Failure (StateM σ) σ) s = (.ok s, s) := rfl
@[simp] lemma exec_set (t : σ) :
    exec (set t : ExceptT Failure (StateM σ) PUnit) s = (.ok ⟨⟩, t) := rfl
@[simp] lemma exec_modify (f : σ → σ) :
    exec (modify f : ExceptT Failure (StateM σ) PUnit) s = (.ok ⟨⟩, f s) := rfl
@[simp] lemma exec_modifyGet (f : σ → α × σ) :
    exec (modifyGet f : ExceptT Failure (StateM σ) α) s = (.ok (f s).1, (f s).2) := rfl

lemma exec_bind (x : ExceptT Failure (StateM σ) α) (f : α → ExceptT Failure (StateM σ) β) :
    exec (x >>= f) s =
      match exec x s with
      | (.ok a, t) => exec (f a) t
      | (.error e, t) => (.error e, t) := by
  simp only [exec, ExceptT.run, bind, ExceptT.bind, ExceptT.mk, StateT.bind, ExceptT.bindCont]
  rcases x s with ⟨_ | _, t⟩ <;> rfl

lemma exec_bind_ok {x : ExceptT Failure (StateM σ) α} {f : α → ExceptT Failure (StateM σ) β}
    {a : α} {t : σ} (h : exec x s = (.ok a, t)) : exec (x >>= f) s = exec (f a) t := by
  rw [exec_bind, h]

lemma exec_bind_error {x : ExceptT Failure (StateM σ) α}
    {f : α → ExceptT Failure (StateM σ) β} {e : Failure} {t : σ}
    (h : exec x s = (.error e, t)) : exec (x >>= f) s = (.error e, t) := by
  rw [exec_bind, h]

lemma exec_tryCatch (x : ExceptT Failure (StateM σ) α)
    (f : Failure → ExceptT Failure (StateM σ) α) :
    exec (tryCatch x f) s =
      match exec x s with
      | (.ok a, t) => (.ok a, t)
      | (.error e, t) => exec (f e) t := by
  simp only [exec, tryCatch, tryCatchThe, MonadExceptOf.tryCatch, ExceptT.tryCatch, ExceptT.run,
    ExceptT.mk, bind, StateT.bind]
  rcases x s with ⟨_ | _, t⟩ <;> rfl

/-- A caught failure is an outcome like others. -/
lemma exec_caught (x : ExceptT Failure (StateM σ) α) :
    exec (tryCatch (Except.ok <$> x) fun e => pure (.error e)) s =
      (.ok (exec x s).1, (exec x s).2) := by
  rw [exec_tryCatch, map_eq_pure_bind, exec_bind]
  rcases exec x s with ⟨_ | _, t⟩ <;> rfl

end

namespace StoreM

variable {α : Type} {s : StoreState}

@[simp] lemma exec_fail (e : AgentError) : exec (fail e : StoreM α) s = (.error (.agent e), s) := rfl
@[simp] lemma exec_lift (r : Except Failure α) : exec (lift r) s = (r, s) := by cases r <;> rfl
@[simp] lemma exec_attempt (x : StoreM α) :
    exec (attempt x) s = (.ok (exec x s).1, (exec x s).2) := exec_caught x

end StoreM

/-- A change of the tables that happens as a whole or not at all. -/
abbrev Change (α : Type) := StateT Tables (Except Failure) α

namespace Change

variable {α β : Type}

/-- How a change of the tables ends. -/
def outcome (c : Change α) (t : Tables) : Except Failure α := (c.run t).map (·.1)

/-- The tables afterwards; a change that fails leaves them as they were. -/
def after (c : Change α) (t : Tables) : Tables :=
  match c.run t with
  | .ok (_, t') => t'
  | .error _ => t

lemma outcome_of_ok {c : Change α} {t t' : Tables} {a : α} (h : c.run t = .ok (a, t')) :
    c.outcome t = .ok a := by simp [outcome, h, Except.map]

lemma after_of_ok {c : Change α} {t t' : Tables} {a : α} (h : c.run t = .ok (a, t')) :
    c.after t = t' := by simp [after, h]

lemma outcome_of_error {c : Change α} {t : Tables} {f : Failure} (h : c.run t = .error f) :
    c.outcome t = .error f := by simp [outcome, h, Except.map]

lemma after_of_error {c : Change α} {t : Tables} {f : Failure} (h : c.run t = .error f) :
    c.after t = t := by simp [after, h]

lemma outcome_eq_ok {c : Change α} {t : Tables} {a : α} (h : c.outcome t = .ok a) :
    c.run t = .ok (a, c.after t) := by
  cases hc : c.run t with
  | error f => simp [outcome_of_error hc] at h
  | ok r =>
    obtain ⟨b, t'⟩ := r
    simp [outcome_of_ok hc] at h
    simp [after_of_ok hc, h]

lemma outcome_eq_error {c : Change α} {t : Tables} {f : Failure} (h : c.outcome t = .error f) :
    c.run t = .error f := by
  cases hc : c.run t with
  | error g => simpa [outcome_of_error hc] using h
  | ok r => simp [outcome_of_ok hc] at h

/-- A failing change leaves the tables alone. -/
lemma after_of_outcome_error {c : Change α} {t : Tables} {f : Failure}
    (h : c.outcome t = .error f) : c.after t = t := after_of_error (outcome_eq_error h)

/-- Looks at the tables and leaves them alone. -/
def look (f : Tables → Except Failure α) : Change α := fun t => (f t).map (·, t)

@[simp] lemma outcome_look (f : Tables → Except Failure α) (t : Tables) :
    (look f).outcome t = f t := by
  cases h : f t <;> simp [outcome, look, StateT.run, h, Except.map]

@[simp] lemma after_look (f : Tables → Except Failure α) (t : Tables) :
    (look f).after t = t := by
  cases h : f t <;> simp [after, look, StateT.run, h, Except.map]

end Change

/-- Whether the database has given up the transaction with the statement that has failed. -/
def Failure.endsTransaction : Failure → Bool
  | .agent e => e.reason = .text "database or disk is full"
  | _ => false

lemma endsTransaction_toAgentError (p : DatabaseProblem) (activity : Activity)
    (entity : Option String) :
    (Failure.agent (p.toAgentError activity entity)).endsTransaction = p.endsTransaction := by
  cases p <;> simp [Failure.endsTransaction, DatabaseProblem.toAgentError,
    DatabaseProblem.endsTransaction, DatabaseProblem.idsExhausted]

namespace Transaction

def finishedError : AgentError :=
  { kind := .storage, reason := .transactionFinished, activity := some .executeStatement }

/-- Where a transaction stands. -/
inductive Phase
  /-- Nothing is decided; the tables are the working copy. -/
  | underWay (tables : Tables)
  /-- The database has given the transaction up; the tables are the durable ones. The handle has not
  been told: as long as it is not `finished`, statements work on them. -/
  | ended (finished : Bool) (tables : Tables)
  | committed (tables : Tables)
  | rolledBack

namespace Phase

/-- Whether the handle of the transaction has finished. -/
def isOver : Phase → Bool
  | underWay _ => false
  | ended finished _ => finished
  | _ => true

/-- Whether it was the database that has ended the transaction. -/
def givenUp : Phase → Bool
  | ended _ _ => true
  | _ => false

def working? : Phase → Option Tables
  | underWay t => some t
  | _ => none

/-- The tables that statements work on. -/
def tables? : Phase → Option Tables
  | underWay t => some t
  | ended false t => some t
  | _ => none

/-- The durable tables, if they were `before` when the transaction began. -/
def durable (before : Tables) : Phase → Tables
  | ended _ t => t
  | committed t => t
  | _ => before

/-- The phase once a statement has made `t` of the tables. -/
def put (t : Tables) : Phase → Phase
  | underWay _ => underWay t
  | ended false _ => ended false t
  | p => p

/-- The phase once a statement has failed. -/
def refuse (before : Tables) (f : Failure) : Phase → Phase
  | underWay t => if f.endsTransaction then ended false before else underWay t
  | p => p

/-- Looks at the tables; a transaction that is over refuses it. -/
def look {α : Type} (f : Tables → Except Failure α) (p : Phase) : Except Failure α :=
  match p.tables? with
  | some t => f t
  | none => .error (.agent finishedError)

/-- Carries out a change; a transaction that is over refuses it. -/
def apply {α : Type} (before : Tables) (c : Change α) (p : Phase) : Except Failure α × Phase :=
  match p.tables? with
  | none => (.error (.agent finishedError), p)
  | some t =>
    match c.run t with
    | .ok (a, t') => (.ok a, p.put t')
    | .error f => (.error f, p.refuse before f)

section

variable {α : Type} {before t t' : Tables} {c : Change α} {p : Phase}

lemma apply_of_ok {a : α} (hp : p.tables? = some t) (h : c.run t = .ok (a, t')) :
    p.apply before c = (.ok a, p.put t') := by
  simp only [apply, hp, h]

lemma apply_of_error {f : Failure} (hp : p.tables? = some t) (h : c.run t = .error f) :
    p.apply before c = (.error f, p.refuse before f) := by
  simp only [apply, hp, h]

lemma apply_of_over (hp : p.tables? = none) :
    p.apply before c = (.error (.agent finishedError), p) := by
  simp only [apply, hp]

lemma look_of_tables {f : Tables → Except Failure α} (hp : p.tables? = some t) :
    p.look f = f t := by
  simp only [look, hp]

lemma look_of_over {f : Tables → Except Failure α} (hp : p.tables? = none) :
    p.look f = .error (.agent finishedError) := by
  simp only [look, hp]

lemma eq_underWay_of_working (h : p.working? = some t) : p = .underWay t := by
  cases p with
  | underWay u => exact congrArg underWay (Option.some.inj h)
  | _ => exact nomatch h

lemma isOver_iff : p.isOver = true ↔ p.tables? = none := by
  rcases p with _ | ⟨_ | _, _⟩ | _ | _ <;> simp [isOver, tables?]

lemma tables?_put (hp : p.tables? = some t) (t' : Tables) : (p.put t').tables? = some t' := by
  rcases p with _ | ⟨_ | _, _⟩ | _ | _ <;> first | rfl | exact nomatch hp

lemma put_put (p : Phase) (t t' : Tables) : (p.put t).put t' = p.put t' := by
  rcases p with _ | ⟨_ | _, _⟩ | _ | _ <;> rfl

end

end Phase

/-- The phase of a transaction, and the position of the random source. -/
structure Progress where
  phase : Phase
  entropy : Entropy

/-- `s` is a state in the course of the transaction `h`, which was begun in `s₀`. -/
structure At (s₀ : StoreState) (h : Handle) (m : Progress) (s : StoreState) : Prop where
  store : s.store = s₀.store
  now : s.now = s₀.now
  closed : s.connection.closed = false
  durable : s.connection.durable = m.phase.durable s₀.connection.durable
  working : s.connection.working = m.phase.working?
  entropy : s.entropy = m.entropy
  finished : h ∈ s.finished ↔ m.phase.isOver = true
  lt_begun : h < s.begun
  finished_lt : ∀ k ∈ s.finished, k < s.begun

lemma At.record {s₀ s : StoreState} {h : Handle} {m : Progress} (hs : At s₀ h m s)
    (level : LogLevel) (source : LogSource) (text : String) :
    At s₀ h m { s with toSurroundings := s.toSurroundings.record level source text } :=
  ⟨hs.store, hs.now, hs.closed, hs.durable, hs.working, hs.entropy, hs.finished, hs.lt_begun,
    hs.finished_lt⟩

/-- From the progress `m` the operation leads to the outcome and the progress `r`. -/
def Leads {α : Type} (s₀ : StoreState) (h : Handle) (x : StoreM α) (m : Progress)
    (r : Except Failure α × Progress) : Prop :=
  ∀ s, At s₀ h m s → ∃ s', exec x s = (r.1, s') ∧ At s₀ h r.2 s'

section

variable {α β : Type} {s₀ : StoreState} {h : Handle} {m m' : Progress}

lemma Leads.pure (a : α) : Leads s₀ h (Pure.pure a) m (.ok a, m) :=
  fun s hs => ⟨s, by simp, hs⟩

lemma Leads.throw (f : Failure) : Leads s₀ h (MonadExcept.throw f : StoreM α) m (.error f, m) :=
  fun s hs => ⟨s, rfl, hs⟩

lemma Leads.lift (r : Except Failure α) : Leads s₀ h (StoreM.lift r) m (r, m) :=
  fun s hs => ⟨s, by simp, hs⟩

lemma Leads.record (level : LogLevel) (source : LogSource) (text : String) :
    Leads s₀ h (StoreM.record level source text) m (.ok (), m) :=
  fun _ hs => ⟨_, rfl, hs.record level source text⟩

/-- The clock and the store key stay as they were when the transaction began. -/
lemma Leads.get {f : StoreState → StoreM β} {r : Except Failure β × Progress}
    (hf : ∀ s, At s₀ h m s → Leads s₀ h (f s) m r) : Leads s₀ h (MonadState.get >>= f) m r :=
  fun s hs => by simpa [exec_bind] using hf s hs s hs

lemma Leads.bind {x : StoreM α} {f : α → StoreM β} {a : α} {r : Except Failure β × Progress}
    (hx : Leads s₀ h x m (.ok a, m')) (hf : Leads s₀ h (f a) m' r) :
    Leads s₀ h (x >>= f) m r := by
  intro s hs
  obtain ⟨t, ht, hat⟩ := hx s hs
  rw [exec_bind_ok ht]
  exact hf t hat

lemma Leads.bind_error {x : StoreM α} {f : α → StoreM β} {e : Failure}
    (hx : Leads s₀ h x m (.error e, m')) : Leads s₀ h (x >>= f) m (.error e, m') := by
  intro s hs
  obtain ⟨t, ht, hat⟩ := hx s hs
  exact ⟨t, exec_bind_error ht, hat⟩

lemma Leads.map {x : StoreM α} {r : Except Failure α × Progress} (g : α → β)
    (hx : Leads s₀ h x m r) : Leads s₀ h (x >>= fun a => Pure.pure (g a)) m (r.1.map g, r.2) := by
  obtain ⟨_ | a, m'⟩ := r
  · exact hx.bind_error
  · exact hx.bind (Leads.pure _)

end

end Transaction

end MeshAgent
