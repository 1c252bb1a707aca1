import MeshAgent.Proofs.Secrecy.Masked
import MeshAgent.Proofs.Secrecy.Parallel

/-!
# Twin stores

Two stores are twins if all that is not secret is the same in both of them, and each can open its own
secrets with its own key. Twins stay twins through every statement and every transaction.
-/
namespace MeshAgent

/-- The key opens the blob. -/
def Secret.Opens (storeKey blob : Bytes) : Prop := ∃ secret, decrypt blob storeKey = .ok secret

/-- The key opens the secrets of a row. -/
structure InterfaceColumns.Opens (storeKey : Bytes) (c : InterfaceColumns) : Prop where
  key : Secret.Opens storeKey c.key
  deviceToken : Secret.Opens storeKey c.deviceToken

def Tables.Opens (storeKey : Bytes) (t : Tables) : Prop :=
  ∀ r ∈ t.interfaces, r.toInterfaceColumns.Opens storeKey

/-- The same tables up to the bytes of the secrets, which are sealed with `k` in one and with `k'` in
the other. -/
structure Tables.Twin (k k' : Bytes) (t t' : Tables) : Prop where
  masked : t.masked = t'.masked
  left : t.Opens k
  right : t'.Opens k'

structure Connection.Twin (k k' : Bytes) (c c' : Connection) : Prop where
  closed : c.closed = c'.closed
  durable : Tables.Twin k k' c.durable c'.durable
  working : Option.Rel (Tables.Twin k k') c.working c'.working

/-- States of two stores with the keys `k` and `k'`. Their random sources have nothing to do with
each other. -/
structure StoreState.Twin (k k' : Bytes) (s s' : StoreState) : Prop where
  left : s.store.key = k
  right : s'.store.key = k'
  path : s.store.path = s'.store.path
  connection : Connection.Twin k k' s.connection s'.connection
  begun : s.begun = s'.begun
  finished : s.finished = s'.finished
  now : s.now = s'.now
  records : s.records = s'.records

/-- Operations of twin stores that end alike and leave twins. -/
abbrev Twins {α : Type} (k k' : Bytes) (R : α → α → Prop) (x x' : StoreM α) : Prop :=
  Parallel (StoreState.Twin k k') R x x'

variable {α : Type} {k k' : Bytes} {R : α → α → Prop}

namespace Connection.Twin

variable {c c' : Connection} {t t' : Tables}

/-- Both connections have a transaction under way, or neither has. -/
lemma working_cases (h : Connection.Twin k k' c c') :
    c.working = none ∧ c'.working = none ∨
      ∃ t t', c.working = some t ∧ c'.working = some t' ∧ Tables.Twin k k' t t' := by
  have hworking := h.working
  revert hworking
  cases c.working <;> cases c'.working <;> simp

lemma tables (h : Connection.Twin k k' c c') : Tables.Twin k k' c.tables c'.tables := by
  obtain ⟨hw, hw'⟩ | ⟨t, t', hw, hw', ht⟩ := h.working_cases
  · simpa [Connection.tables, hw, hw'] using h.durable
  · simpa [Connection.tables, hw, hw'] using ht

lemma put (h : Connection.Twin k k' c c') (ht : Tables.Twin k k' t t') :
    Connection.Twin k k' (c.put t) (c'.put t') := by
  rw [Connection.put, Connection.put]
  obtain ⟨hw, hw'⟩ | ⟨t, t', hw, hw', -⟩ := h.working_cases
  · simp only [hw, hw']
    exact ⟨h.closed, ht, .none⟩
  · simp only [hw, hw']
    exact ⟨h.closed, h.durable, .some ht⟩

lemma begin_ (h : Connection.Twin k k' c c') :
    Ends (Connection.Twin k k') c.begin_ c'.begin_ := by
  rw [Connection.begin_, Connection.begin_, h.closed]
  split
  · exact .error _
  · obtain ⟨hw, hw'⟩ | ⟨t, t', hw, hw', -⟩ := h.working_cases
    · simp only [hw, hw']
      exact .ok ⟨rfl, h.durable, .some h.durable⟩
    · simp only [hw, hw']
      exact .error _

lemma commit (h : Connection.Twin k k' c c') :
    Ends (Connection.Twin k k') c.commit c'.commit := by
  rw [Connection.commit, Connection.commit, h.closed]
  split
  · exact .error _
  · obtain ⟨hw, hw'⟩ | ⟨t, t', hw, hw', ht⟩ := h.working_cases
    · simp only [hw, hw']
      exact .error _
    · simp only [hw, hw']
      exact .ok ⟨rfl, ht, .none⟩

lemma rollback (h : Connection.Twin k k' c c') :
    Ends (Connection.Twin k k') c.rollback c'.rollback := by
  rw [Connection.rollback, Connection.rollback, h.closed]
  split
  · exact .error _
  · obtain ⟨hw, hw'⟩ | ⟨t, t', hw, hw', -⟩ := h.working_cases
    · simp only [hw, hw']
      exact .error _
    · simp only [hw, hw']
      exact .ok ⟨rfl, h.durable, .none⟩

lemma refused (h : Connection.Twin k k' c c') (p : DatabaseProblem) :
    Connection.Twin k k' (c.refused p) (c'.refused p) := by
  rw [Connection.refused, Connection.refused]
  split
  · exact ⟨h.closed, h.durable, .none⟩
  · exact h

end Connection.Twin

/-- Statements that end alike on twin tables and leave twins. -/
def TwinStatements (k k' : Bytes) (R : α → α → Prop)
    (f f' : Tables → Except DatabaseProblem (Tables × α)) : Prop :=
  ∀ t t', Tables.Twin k k' t t' →
    Ends (fun r r' => Tables.Twin k k' r.1 r'.1 ∧ R r.2 r'.2) (f t) (f' t')

lemma Connection.Twin.run {c c' : Connection} {f f' : Tables → Except DatabaseProblem (Tables × α)}
    (h : Connection.Twin k k' c c') (hf : TwinStatements k k' R f f') :
    Ends R (c.run f).1 (c'.run f').1 ∧ Connection.Twin k k' (c.run f).2 (c'.run f').2 := by
  have hends := hf c.tables c'.tables h.tables
  rw [Connection.run, Connection.run, h.closed]
  split
  · exact ⟨.error _, h⟩
  · generalize f c.tables = r at hends ⊢
    generalize f' c'.tables = r' at hends ⊢
    cases hends with
    | ok hr => exact ⟨.ok hr.2, h.put hr.1⟩
    | error p => exact ⟨.error p, h.refused p⟩

namespace Twins

variable {β : Type}

lemma fail (e : AgentError) : Twins k k' R (StoreM.fail e) (StoreM.fail e) := Parallel.throw _

lemma lift {r r' : Except Failure α} (h : Ends R r r') :
    Twins k k' R (StoreM.lift r) (StoreM.lift r') := by
  cases h with
  | ok h => exact Parallel.pure h
  | error f => exact Parallel.throw f

lemma lift_eq {r r' : Except Failure α} (h : r = r') :
    Twins k k' Eq (StoreM.lift r) (StoreM.lift r') := lift (ends_eq_iff.mpr h)

lemma record (level : LogLevel) (source : LogSource) (text : String) :
    Twins k k' Eq (StoreM.record level source text) (StoreM.record level source text) := by
  refine Parallel.modify fun s s' hs => { hs with records := ?_ }
  change s.records ++ _ = s'.records ++ _
  rw [hs.records]

/-- Random bytes are as many as are asked for, whatever they are. -/
lemma draw (n : Nat) :
    Twins k k' (fun bs bs' => bs.length = n ∧ bs'.length = n) (StoreM.draw n) (StoreM.draw n) :=
  Parallel.modifyGet fun _ _ hs => ⟨⟨Entropy.length_draw _ n, Entropy.length_draw _ n⟩, { hs with }⟩

lemma onConnection (activity : Activity) (entity : Option String)
    {f f' : Connection → Except DatabaseProblem (Connection × α)}
    (hf : ∀ c c', Connection.Twin k k' c c' →
      Ends (fun r r' => Connection.Twin k k' r.1 r'.1 ∧ R r.2 r'.2) (f c) (f' c')) :
    Twins k k' R (StoreM.onConnection activity entity f)
      (StoreM.onConnection activity entity f') := by
  refine Parallel.get fun s s' hs => ?_
  have hends := hf s.connection s'.connection hs.connection
  generalize f s.connection = r at hends ⊢
  generalize f' s'.connection = r' at hends ⊢
  cases hends with
  | ok h =>
    refine (Parallel.set { hs with connection := h.1 }).bind fun _ _ _ => ?_
    exact Parallel.pure h.2
  | error p => exact fail _

lemma onConnection_unit (activity : Activity) (entity : Option String)
    {f : Connection → Except DatabaseProblem Connection}
    (hf : ∀ c c', Connection.Twin k k' c c' → Ends (Connection.Twin k k') (f c) (f c')) :
    Twins k k' Eq (StoreM.onConnection activity entity fun c => (f c).map (·, ()))
      (StoreM.onConnection activity entity fun c => (f c).map (·, ())) :=
  onConnection activity entity fun c c' hc => (hf c c' hc).map fun _ _ h => ⟨h, rfl⟩

variable {h : Handle}

lemma isFinished : Twins k k' Eq (Transaction.isFinished h) (Transaction.isFinished h) :=
  Parallel.get fun s s' hs => Parallel.pure (by rw [hs.finished])

lemma finish : Twins k k' Eq (Transaction.finish h) (Transaction.finish h) :=
  Parallel.modify fun _ _ hs => { hs with finished := congrArg (h :: ·) hs.finished }

lemma execute (activity : Activity) (entity : Option String) (numbers : List Int)
    {f f' : Tables → Except DatabaseProblem (Tables × α)} (hf : TwinStatements k k' R f f') :
    Twins k k' R (Transaction.execute h activity entity numbers f)
      (Transaction.execute h activity entity numbers f') := by
  unfold Transaction.execute
  refine isFinished.bind fun finished finished' hfinished => ?_
  subst hfinished
  refine .ite (Parallel.throw_bind _) (Parallel.get fun s s' hs => ?_)
  rw [hs.connection.closed]
  refine .ite (Parallel.throw_bind _) (.ite (Parallel.throw_bind _) ?_)
  refine Parallel.get fun s s' hs => ?_
  have hrun := hs.connection.run hf
  revert hrun
  rcases s.connection.run f with ⟨outcome, c⟩
  rcases s'.connection.run f' with ⟨outcome', c'⟩
  rintro ⟨hends, hc⟩
  refine (Parallel.set { hs with connection := hc }).bind fun _ _ _ => ?_
  cases hends with
  | ok h => exact Parallel.pure h
  | error p => exact fail _

lemma query (activity : Activity) (entity : Option String) (numbers : List Int)
    {read read' : Tables → α} (hread : ∀ t t', Tables.Twin k k' t t' → R (read t) (read' t')) :
    Twins k k' R (Transaction.query h activity entity numbers read)
      (Transaction.query h activity entity numbers read') :=
  execute activity entity numbers fun t t' ht => .ok ⟨ht, hread t t' ht⟩

lemma begin_ (write : Bool) :
    Twins k k' Eq (Transaction.begin_ write) (Transaction.begin_ write) := by
  unfold Transaction.begin_
  refine Parallel.get fun s s' hs => ?_
  have herror : Transaction.closedError s.store = Transaction.closedError s'.store := by
    rw [Transaction.closedError, Transaction.closedError, hs.path]
  rw [hs.connection.closed, herror]
  refine .ite (Parallel.throw_bind _) ?_
  refine (onConnection_unit _ _ fun c c' hc => hc.begin_).bind fun _ _ _ => ?_
  refine (record _ _ _).bind fun _ _ _ => Parallel.modifyGet fun s s' hs => ?_
  exact ⟨hs.begun, { hs with begun := congrArg (· + 1) hs.begun }⟩

lemma commit : Twins k k' Eq (Transaction.commit h) (Transaction.commit h) := by
  unfold Transaction.commit
  refine (onConnection_unit _ _ fun c c' hc => hc.commit).bind fun _ _ _ => ?_
  exact finish.bind fun _ _ _ => record _ _ _

lemma rollback : Twins k k' Eq (Transaction.rollback h) (Transaction.rollback h) := by
  unfold Transaction.rollback
  refine finish.bind fun _ _ _ => Parallel.get fun s s' hs => ?_
  have hends := hs.connection.rollback
  generalize s.connection.rollback = r at hends ⊢
  generalize s'.connection.rollback = r' at hends ⊢
  cases hends with
  | ok hc => exact (Parallel.set { hs with connection := hc }).bind fun _ _ _ => record _ _ _
  | error p => exact record _ _ _

lemma leave : Twins k k' Eq (Transaction.leave h) (Transaction.leave h) := by
  unfold Transaction.leave
  refine isFinished.bind fun finished finished' hfinished => ?_
  subst hfinished
  exact .ite (Parallel.pure rfl) rollback

section

variable {σ : Type} {S : σ → σ → Prop}

/-- A block in a transaction of its own, whatever else its computations do. -/
lemma scope {onStore : {β : Type} → StoreM β → ExceptT Failure (StateM σ) β}
    (hon : ∀ {β : Type} {Q : β → β → Prop} {x x' : StoreM β}, Twins k k' Q x x' →
      Parallel S Q (onStore x) (onStore x')) (write : Bool)
    {body body' : Handle → ExceptT Failure (StateM σ) α}
    (hbody : ∀ h, Parallel S R (body h) (body' h)) :
    Parallel S R (Transaction.scope onStore write body)
      (Transaction.scope onStore write body') := by
  unfold Transaction.scope
  refine (hon (begin_ write)).bind fun h h' hh => ?_
  subst hh
  refine (hbody h).caught.bind fun outcome outcome' hends => ?_
  refine (hon leave).bind fun _ _ _ => ?_
  cases hends with
  | ok ha => exact Parallel.pure ha
  | error e => exact Parallel.throw e

end

end Twins

end MeshAgent
