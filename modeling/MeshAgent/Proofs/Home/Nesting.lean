import MeshAgent.Proofs.Home.Callbacks
import MeshAgent.Proofs.Store.Refusals

/-!
# Operations inside a block

A connection runs one transaction at a time. An operation that is called inside a block, and that
would begin a transaction of its own, is refused before it has done anything: no table, no counter
and no record tells that it was called. So a block goes on as if the operation had not been called,
with its refusal at hand.
-/
namespace MeshAgent

/-- An operation of a store that begins a transaction of its own. Of the body of a block nothing is
asked: it is not reached here. -/
inductive Job
  | call (config : Config) (c : Call Interface)
  | withLog (i : Interface) (body : Handle → Option Entry → StoreM Answer)
  | transaction (write : Bool) (body : Handle → StoreM Answer)

namespace Transaction

variable {s : StoreState}

/-- Why no second transaction begins. -/
def nestedError : AgentError :=
  DatabaseProblem.nestedTransaction.toAgentError .beginTransaction none

example : nestedError.kind = .storage ∧
    nestedError.reason = .text "cannot start a transaction within a transaction" := ⟨rfl, rfl⟩

lemma At.isSome_working {s₀ : StoreState} {h : Handle} {t : Tables} {e : Entropy}
    (hs : At s₀ h ⟨.underWay t, e⟩ s) : s.connection.working.isSome := by
  rw [hs.working]
  rfl

/-- A transaction with a working copy is under way. -/
lemma At.exists_underWay {s₀ : StoreState} {h : Handle} {m : Progress} (hs : At s₀ h m s)
    (hworking : s.connection.working.isSome) : ∃ t e, At s₀ h ⟨.underWay t, e⟩ s := by
  rw [hs.working] at hworking
  obtain ⟨t, ht⟩ := Option.isSome_iff_exists.mp hworking
  obtain ⟨phase, e⟩ := m
  obtain rfl := Phase.eq_underWay_of_working ht
  exact ⟨t, e, hs⟩

lemma exec_begin_of_working (hc : s.connection.closed = false)
    (hworking : s.connection.working.isSome) (write : Bool) :
    exec (begin_ write) s = (.error (.agent nestedError), s) := by
  simp only [begin_, exec_bind, exec_get, hc, Bool.false_eq_true, if_false,
    StoreM.onConnection, Connection.begin_, hworking, if_true, Except.map, StoreM.exec_fail]
  rfl

end Transaction

namespace Job

open Transaction

/-- Runs an operation, and tells how it ended and what became of the interface that it took. -/
def perform : Job → StoreM (Except Failure Answer × Option Interface)
  | call config c => c.perform config
  | withLog i body => do return (← StoreM.attempt (Store.logged i body), some i)
  | transaction write body => do
    return (← StoreM.attempt (Transaction.scope (fun x => x) write body), none)

/-- The interface that an operation takes. -/
def iface? : Job → Option Interface
  | call _ c => c.iface?
  | withLog i _ => some i
  | transaction .. => none

/-- How an operation ends while a transaction is under way. -/
def refused : Job → Failure
  | call _ c => c.refusedFor (.agent nestedError)
  | _ => .agent nestedError

/-- No second transaction begins, unless the check of a response fails first. -/
lemma refused_cases (job : Job) :
    job.refused = .agent nestedError ∨ ∃ e, e.kind = .validation ∧ job.refused = .agent e := by
  cases job with
  | call config c => exact c.refusedFor_cases _
  | withLog i body => exact Or.inl rfl
  | transaction write body => exact Or.inl rfl

/-- While a transaction is under way an operation is refused, and nothing is changed. -/
theorem exec_perform_of_working {s : StoreState} (hc : s.connection.closed = false)
    (hworking : s.connection.working.isSome) (job : Job) :
    exec job.perform s = (.ok (.error job.refused, job.iface?), s) := by
  have hbegin := exec_begin_of_working hc hworking
  cases job with
  | call config c => exact exec_perform_of_refused config hbegin c
  | withLog i body =>
    have hlogged : exec (Store.logged i body) s = (.error (.agent nestedError), s) :=
      exec_scope_of_refused hbegin true
    rw [perform, exec_map, StoreM.exec_attempt, hlogged]
    rfl
  | transaction write body =>
    rw [perform, exec_map, StoreM.exec_attempt, exec_scope_of_refused hbegin write]
    rfl

end Job

/-! ## Callbacks that call operations -/

/-- A callback that also calls operations of the store. At the end it goes on as a callback that calls
none. -/
inductive Nesting (α : Type)
  | own (rest : Callback α)
  | step (c : HandleCall Interface) (next : Except Failure Answer → Nesting α)
  | nested (job : Job) (next : Except Failure Answer × Option Interface → Nesting α)

namespace Nesting

open Transaction

variable {α : Type} {store : Store} {now : Int} {before : Tables} {s₀ : StoreState} {h : Handle}

/-- Runs a callback on a transaction. -/
def run (h : Handle) : Nesting α → StoreM α
  | own rest => rest.run h
  | step c next => do (next (← StoreM.attempt (c.run h))).run h
  | nested job next => do (next (← job.perform)).run h

/-- The callback with the refusals in the place of the operations. -/
def alone : Nesting α → Callback α
  | own rest => rest
  | step c next => .step c fun r => (next r).alone
  | nested job next => (next (.error job.refused, job.iface?)).alone

/-- Whenever the callback calls an operation, its own transaction is still under way. -/
def CallsWhileOpen (store : Store) (now : Int) (before : Tables) : Nesting α → Progress → Prop
  | own _, _ => True
  | step c next, m =>
    (next (c.effect store now before m).1).CallsWhileOpen store now before
      (c.effect store now before m).2
  | nested job next, m =>
    m.phase.working?.isSome ∧
      (next (.error job.refused, job.iface?)).CallsWhileOpen store now before m

/-- The callback comes to an operation, and fails as the operation does. -/
inductive LetsThrough (store : Store) (now : Int) (before : Tables) (job : Job) :
    Nesting α → Progress → Prop
  | here {next : Except Failure Answer × Option Interface → Nesting α} {m : Progress} :
    next (.error job.refused, job.iface?) = .own (.fail job.refused) →
    LetsThrough store now before job (.nested job next) m
  | step {c : HandleCall Interface} {next : Except Failure Answer → Nesting α} {m : Progress} :
    LetsThrough store now before job (next (c.effect store now before m).1)
      (c.effect store now before m).2 →
    LetsThrough store now before job (.step c next) m
  | nested {other : Job} {next : Except Failure Answer × Option Interface → Nesting α}
      {m : Progress} :
    LetsThrough store now before job (next (.error other.refused, other.iface?)) m →
    LetsThrough store now before job (.nested other next) m

lemma course_of_letsThrough {job : Job} {n : Nesting α} {m : Progress}
    (hn : n.LetsThrough store now before job m) (hopen : n.CallsWhileOpen store now before m) :
    ∃ t e, n.alone.course store now before m = (.error job.refused, ⟨.underWay t, e⟩) := by
  induction hn with
  | @here next m hfail =>
    obtain ⟨t, ht⟩ := Option.isSome_iff_exists.mp hopen.1
    obtain ⟨phase, e⟩ := m
    obtain rfl := Phase.eq_underWay_of_working ht
    rw [alone, hfail]
    exact ⟨t, e, rfl⟩
  | step _ ih => exact ih hopen
  | nested _ ih => exact ih hopen.2

/-- As long as its transaction is under way when it calls an operation, a callback does what it does
alone. -/
theorem exec_run_eq (hk : s₀.store.key.length = SecretBox.keySize) (n : Nesting α) {m : Progress}
    (hopen : n.CallsWhileOpen s₀.store s₀.now s₀.connection.durable m) {s : StoreState}
    (hs : At s₀ h m s) : exec (n.run h) s = exec (n.alone.run h) s := by
  induction n generalizing m s with
  | own rest => rfl
  | step c next ih =>
    obtain ⟨s', hs', hat⟩ := (leads_step hk c m).attempt s hs
    rw [run, alone, Callback.run, exec_bind_ok hs', exec_bind_ok hs']
    exact ih _ hopen hat
  | nested job next ih =>
    -- the operation has left the state as it was, so that the rest begins where it begins alone
    have hworking : s.connection.working.isSome := by
      rw [hs.working]
      exact hopen.1
    rw [run, alone, exec_bind_ok (job.exec_perform_of_working hs.closed hworking)]
    exact ih _ hopen.2 hs

end Nesting

namespace Transaction

variable {α : Type} {s : StoreState}

/-- Bodies that do the same in the transaction of a block make the same block. -/
lemma exec_scope_congr {body body' : Handle → StoreM α} (hs : s.Idle)
    (hc : s.connection.closed = false) (write : Bool)
    (hbody : ∀ s₁, At s s.begun ⟨.underWay s.connection.durable, s.entropy⟩ s₁ →
      exec (body s.begun) s₁ = exec (body' s.begun) s₁) :
    exec (scope (fun x => x) write body) s = exec (scope (fun x => x) write body') s := by
  obtain ⟨s₁, h₁, hat₁⟩ := exec_begin hs hc write
  rw [scope, scope, exec_bind_ok h₁, exec_bind_ok h₁, exec_bind, exec_bind, exec_caught,
    exec_caught, hbody s₁ hat₁]

end Transaction

namespace Site

open Transaction

variable {α : Type} {w : Site} {h : Handle} {s : StoreState}

/-- A point inside a block that begins now, with the transaction of the block still under way. Steps
of the block lead there, and operations that are called inside it. -/
inductive Within (w : Site) (h : Handle) : StoreState → Prop
  | begun {write : Bool} {s : StoreState} :
    MeshAgent.exec (begin_ write) w.state = (.ok h, s) → Within w h s
  | step {s : StoreState} (c : HandleCall Interface) : Within w h s →
    (MeshAgent.exec (c.run h) s).2.connection.working.isSome →
    Within w h (MeshAgent.exec (c.run h) s).2
  | nested {s : StoreState} (job : Job) : Within w h s →
    Within w h (MeshAgent.exec job.perform s).2

lemma Within.exists_at (hw : w.Steady) (hs : w.Within h s) :
    ∃ t e, At w.state h ⟨.underWay t, e⟩ s := by
  induction hs with
  | @begun write s hbegin =>
    by_cases hopen : w.IsOpen
    · obtain ⟨s', hs', hat⟩ := exec_begin hw.idle hopen write
      rw [hs'] at hbegin
      obtain ⟨hh, rfl⟩ := Prod.mk.inj hbegin
      rw [← Except.ok.inj hh]
      exact ⟨_, _, hat⟩
    · rw [exec_begin_of_closed (closed_of_not_isOpen hopen)] at hbegin
      exact nomatch (Prod.mk.inj hbegin).1
  | @step s c _ hworking ih =>
    obtain ⟨t, e, hat⟩ := ih
    obtain ⟨s', hs', hat'⟩ := leads_step hw.key c ⟨.underWay t, e⟩ s hat
    rw [hs'] at hworking ⊢
    exact hat'.exists_underWay hworking
  | @nested s job _ ih =>
    obtain ⟨t, e, hat⟩ := ih
    rw [job.exec_perform_of_working hat.closed hat.isSome_working]
    exact ⟨t, e, hat⟩

/-- Runs a callback that calls operations in a block with the newest entry of an interface. -/
def withLogNesting (w : Site) (i : Interface) (n : Option Entry → Nesting α) :
    Except Failure α × Site :=
  w.exec (Store.logged i fun h last => (n last).run h)

/-- Runs a callback that calls operations in a block that commits only what the callback commits. -/
def transactionNesting (w : Site) (write : Bool) (n : Nesting α) : Except Failure α × Site :=
  w.exec (Transaction.scope (fun x => x) write fun h => n.run h)

/-- Whenever the callback calls an operation in a block that begins now, the transaction of the block is
still under way. -/
def CallsWhileOpen (w : Site) (n : Nesting α) : Prop :=
  n.CallsWhileOpen w.mounted.store w.host.now w.tables ⟨.underWay w.tables, w.host.entropy⟩

lemma exec_run_alone (hw : w.Steady) {n : Nesting α} (hn : w.CallsWhileOpen n)
    (hs : At w.state h ⟨.underWay w.state.connection.durable, w.state.entropy⟩ s) :
    MeshAgent.exec (n.run h) s = MeshAgent.exec (n.alone.run h) s :=
  @Nesting.exec_run_eq α w.state h hw.key n _ hn s hs

lemma withLogNesting_eq (hw : w.Steady) {i : Interface} {n : Option Entry → Nesting α}
    (hn : ∀ last, w.tables.newest i = .ok last → w.CallsWhileOpen (n last)) :
    w.withLogNesting i n = w.withLog i fun last => (n last).alone := by
  by_cases hopen : w.IsOpen
  · rw [withLogNesting, withLog, exec_eq, exec_eq, Store.logged, Store.logged, Store.withLog,
      Store.withLog]
    rw [exec_scope_congr hw.idle hopen true]
    intro s hs
    -- both blocks look for the newest entry first, and hand it to the same callback
    obtain ⟨s', hs', hat⟩ := finds_last i s hs
    cases hlast : w.tables.newest i with
    | error f =>
      rw [durable_state, hlast] at hs'
      rw [exec_bind_error hs', exec_bind_error hs']
    | ok last =>
      rw [durable_state, hlast] at hs'
      rw [exec_bind_ok hs', exec_bind_ok hs', exec_bind, exec_bind,
        exec_run_alone hw (hn last hlast) hat]
  · rw [withLogNesting, withLog_of_closed hopen]
    exact exec_scope_of_closed hopen true _

lemma transactionNesting_eq (hw : w.Steady) (write : Bool) {n : Nesting α}
    (hn : w.CallsWhileOpen n) :
    w.transactionNesting write n = w.transaction write n.alone := by
  by_cases hopen : w.IsOpen
  · have hsame := @exec_scope_congr α w.state (fun h => n.run h) (fun h => n.alone.run h) hw.idle
      hopen write fun s hs => exec_run_alone hw hn hs
    rw [transactionNesting, transaction, exec_eq, exec_eq, hsame]
  · rw [transactionNesting, transaction_of_closed hopen]
    exact exec_scope_of_closed hopen write _

/-- How a block ends whose callback has decided nothing. -/
lemma withLog_of_course (hw : w.Steady) (hopen : w.IsOpen) {i : Interface} {last : Option Entry}
    (hlast : w.tables.newest i = .ok last) {callback : Option Entry → Callback α}
    {o : Except Failure α} {t : Tables} {e : Entropy}
    (hcourse : w.course (callback last) = (o, ⟨.underWay t, e⟩)) :
    (w.withLog i callback).1 = o ∧
      (w.withLog i callback).2.tables = if o.toBool then t else w.tables := by
  obtain ⟨s, hs, hset⟩ := withLog_spec hw hopen i callback
  have hblock : w.block i callback = Progress.close (o, ⟨.underWay t, e⟩) := by
    rw [block, hlast, ← hcourse]
  rw [hs, tables_leave hw, hset.durable, hblock]
  cases o <;> exact ⟨rfl, rfl⟩

/-- The callback comes to an operation in a block that begins now, and fails as the operation does. -/
def LetsThrough (w : Site) (n : Nesting α) (job : Job) : Prop :=
  n.LetsThrough w.mounted.store w.host.now w.tables job ⟨.underWay w.tables, w.host.entropy⟩

lemma course_of_letsThrough {n : Nesting α} {job : Job} (hn : w.LetsThrough n job)
    (hopen : w.CallsWhileOpen n) :
    ∃ t e, w.course n.alone = (.error job.refused, ⟨.underWay t, e⟩) :=
  Nesting.course_of_letsThrough hn hopen

/-- Operations that are called inside the blocks of a site do not disturb them. -/
structure Shielded (w : Site) : Prop where
  /-- At every point they are refused, since a transaction is under way or since the check of a
  response fails before that. They leave everything as it is at that point, the interface that they
  take included. -/
  refused : ∀ h s, w.Within h s → ∀ job : Job,
    MeshAgent.exec job.perform s = (.ok (.error job.refused, job.iface?), s) ∧
      s.connection.working.isSome ∧
      (job.refused = .agent nestedError ∨ ∃ e, e.kind = .validation ∧ job.refused = .agent e)
  /-- As long as its transaction is under way when it calls an operation, a block is the one that its
  callback makes alone. -/
  withLog : ∀ {α : Type} (i : Interface) (n : Option Entry → Nesting α),
    (∀ last, w.tables.newest i = .ok last → w.CallsWhileOpen (n last)) →
    w.withLogNesting i n = w.withLog i fun last => (n last).alone
  transaction : ∀ {α : Type} (write : Bool) (n : Nesting α), w.CallsWhileOpen n →
    w.transactionNesting write n = w.transaction write n.alone
  /-- What the steps of a callback have made is committed if it returns. -/
  returned : ∀ {α : Type} (i : Interface) (n : Option Entry → Nesting α) (last : Option Entry)
    (a : α) (t : Tables) (e : Entropy), w.tables.newest i = .ok last → w.CallsWhileOpen (n last) →
    w.course (n last).alone = (.ok a, ⟨.underWay t, e⟩) →
    (w.withLogNesting i n).1 = .ok a ∧ (w.withLogNesting i n).2.tables = t
  /-- It is dropped if a refusal makes the callback fail. -/
  failed : ∀ {α : Type} (i : Interface) (n : Option Entry → Nesting α) (last : Option Entry)
    (job : Job), w.tables.newest i = .ok last → w.CallsWhileOpen (n last) →
    w.LetsThrough (n last) job →
    (w.withLogNesting i n).1 = .error job.refused ∧ (w.withLogNesting i n).2.tables = w.tables
  /-- In a block without a commit of its own, the callback decides what becomes durable. -/
  decided : ∀ {α : Type} (write : Bool) (n : Nesting α), w.CallsWhileOpen n →
    (w.transactionNesting write n).1 = (w.course n.alone).1 ∧
      (w.transactionNesting write n).2.tables = (w.course n.alone).2.phase.durable w.tables
  dropped : ∀ {α : Type} (write : Bool) (n : Nesting α) (job : Job), w.CallsWhileOpen n →
    w.LetsThrough n job →
    (w.transactionNesting write n).1 = .error job.refused ∧
      (w.transactionNesting write n).2.tables = w.tables

/-- The blocks of every reachable site are shielded from the operations that are called in them. -/
theorem shielded (hw : Reachable w) (hopen : w.IsOpen) : w.Shielded := by
  obtain ⟨hsteady, -⟩ := hw.spec
  have hdecided : ∀ {α : Type} (write : Bool) (n : Nesting α), w.CallsWhileOpen n →
      (w.transactionNesting write n).1 = (w.course n.alone).1 ∧
        (w.transactionNesting write n).2.tables =
          (w.course n.alone).2.phase.durable w.tables := by
    intro α write n hn
    obtain ⟨s, hs, hset⟩ := transaction_spec hsteady hopen write n.alone
    rw [transactionNesting_eq hsteady write hn, hs, tables_leave hsteady, hset.durable]
    exact ⟨rfl, rfl⟩
  have halone : ∀ {α : Type} {i : Interface} {n : Option Entry → Nesting α} {last : Option Entry},
      w.tables.newest i = .ok last → w.CallsWhileOpen (n last) →
      w.withLogNesting i n = w.withLog i fun last => (n last).alone := by
    intro α i n last hlast hn
    refine withLogNesting_eq hsteady fun other hother => ?_
    obtain rfl : last = other := Except.ok.inj (hlast.symm.trans hother)
    exact hn
  constructor
  case refused =>
    intro h s hs job
    obtain ⟨t, e, hat⟩ := hs.exists_at hsteady
    exact ⟨job.exec_perform_of_working hat.closed hat.isSome_working, hat.isSome_working,
      job.refused_cases⟩
  case withLog => exact fun i n hn => withLogNesting_eq hsteady hn
  case transaction => exact fun write n hn => transactionNesting_eq hsteady write hn
  case returned =>
    intro α i n last a t e hlast hn hcourse
    rw [halone hlast hn]
    exact withLog_of_course hsteady hopen hlast hcourse
  case failed =>
    intro α i n last job hlast hn hlets
    obtain ⟨t, e, hcourse⟩ := course_of_letsThrough hlets hn
    rw [halone hlast hn]
    exact withLog_of_course hsteady hopen hlast hcourse
  case decided => exact hdecided
  case dropped =>
    intro α write n job hn hlets
    obtain ⟨t, e, hcourse⟩ := course_of_letsThrough hlets hn
    obtain ⟨houtcome, htables⟩ := hdecided write n hn
    rw [hcourse] at houtcome htables
    exact ⟨houtcome, htables⟩

/-- A callback that has stored an interface tries to store another one in a transaction of its own. If
it goes on after that its own interface is there, and if it does not there is none. -/
theorem shielded_blank :
    let addr : Address := .v4 ⟨0, Address.fullPrefix4⟩
    let key : Bytes := List.replicate Key.size 0
    let i : Interface :=
      { apiUrl := "", network := ⟨"", "", addr⟩
        device := { id := "a", name := "x", addr, publicKey := key }, key, deviceToken := [] }
    let other : Interface := { i with device := { i.device with id := "b", name := "y" } }
    let after (rest : Except Failure Answer → Nesting Unit) : Nesting Unit :=
      .step (.ensure i) fun _ => .nested (.call {} (.ensure other)) fun r => rest r.1
    let goesOn := after fun _ => .own (.done ())
    let failing := after fun r =>
      match r with
      | .ok _ => .own (.done ())
      | .error f => .own (.fail f)
    ((blank.withLogNesting i fun _ => goesOn).1 = .ok () ∧
      (blank.withLogNesting i fun _ => goesOn).2.tables.interfaces.map (·.id) = [1]) ∧
    (blank.withLogNesting i fun _ => failing).1 = .error (.agent nestedError) ∧
      (blank.withLogNesting i fun _ => failing).2.tables = {} := by
  intro addr key i other after goesOn failing
  have hshielded := shielded reachable_blank rfl
  have hnewest : blank.tables.newest i = .ok none := rfl
  have hworking : (HandleCall.effect blank.mounted.store blank.host.now blank.tables (.ensure i)
      ⟨.underWay blank.tables, blank.host.entropy⟩).2.phase.working?.map
        (fun t => t.interfaces.map (·.id)) = some [1] := by decide +kernel
  obtain ⟨t, ht, hids⟩ := Option.map_eq_some_iff.mp hworking
  have hopen : (HandleCall.effect blank.mounted.store blank.host.now blank.tables (.ensure i)
      ⟨.underWay blank.tables, blank.host.entropy⟩).2.phase.working?.isSome := by
    rw [ht]
    rfl
  have hcourse : blank.course goesOn.alone = (.ok (), ⟨.underWay t, _⟩) :=
    congrArg (fun p => (Except.ok (), Progress.mk p _)) (Phase.eq_underWay_of_working ht)
  refine ⟨?_, ?_⟩
  · obtain ⟨houtcome, htables⟩ := hshielded.returned i (fun _ => goesOn) none () t _ hnewest
      ⟨hopen, trivial⟩ hcourse
    refine ⟨houtcome, ?_⟩
    rw [htables]
    exact hids
  · exact hshielded.failed i (fun _ => failing) none (.call {} (.ensure other)) hnewest
      ⟨hopen, trivial⟩ (.step (.here rfl))

end Site

end MeshAgent
