import MeshAgent.Proofs.Store.Progress

/-!
# Transactions from begin to end

A statement is one change of the working copy. A block that runs in a transaction of its own leaves
the durable tables as they were, unless the block itself commits; what it has committed stays.
-/
namespace MeshAgent

/-- Explains a refusal of the database. -/
def DatabaseProblem.explained {α : Type} (activity : Activity) (entity : Option String) :
    Except DatabaseProblem α → Except Failure α
  | .ok a => .ok a
  | .error p => .error (.agent (p.toAgentError activity entity))

/-- One statement as a change of the tables. -/
def Change.statement {α : Type} (activity : Activity) (entity : Option String)
    (numbers : List Int) (f : Tables → Except DatabaseProblem (Tables × α)) : Change α := fun t =>
  if numbers.any fun n => !fitsColumn n then .error .integerRange
  else
    match f t with
    | .ok (t', a) => .ok (a, t')
    | .error p => .error (.agent (p.toAgentError activity entity))

lemma Change.statement_eq_ok {α : Type} {activity : Activity} {entity : Option String}
    {numbers : List Int} {f : Tables → Except DatabaseProblem (Tables × α)} {t t' : Tables} {a : α} :
    (Change.statement activity entity numbers f).run t = .ok (a, t') ↔
      (∀ n ∈ numbers, fitsColumn n = true) ∧ f t = .ok (t', a) := by
  simp only [Change.statement, StateT.run]
  split
  · rename_i hany
    obtain ⟨n, hn, hfit⟩ := List.any_eq_true.mp hany
    simp only [reduceCtorEq, false_iff, not_and]
    intro hall
    simp [hall n hn] at hfit
  · rename_i hany
    have hall : ∀ n ∈ numbers, fitsColumn n = true := by simpa using hany
    cases hf : f t with
    | error p => simp
    | ok r =>
      obtain ⟨t₁, b⟩ := r
      simp only [Except.ok.injEq, Prod.mk.injEq]
      exact ⟨fun h => ⟨hall, h.2, h.1⟩, fun h => ⟨h.2.2, h.2.1⟩⟩

/-- No transaction is under way, and no handle has finished that was not begun. -/
structure StoreState.Idle (s : StoreState) : Prop where
  working : s.connection.working = none
  finished_lt : ∀ k ∈ s.finished, k < s.begun

namespace Transaction

variable {α : Type} {s₀ : StoreState} {h : Handle}

/-- Carries out a change, which draws nothing. -/
def Progress.apply (before : Tables) (c : Change α) (m : Progress) :
    Except Failure α × Progress :=
  ((m.phase.apply before c).1, { m with phase := (m.phase.apply before c).2 })

/-- The progress once a statement has made `t` of the tables. -/
def Progress.put (m : Progress) (t : Tables) : Progress := { m with phase := m.phase.put t }

lemma Progress.put_put (m : Progress) (t t' : Tables) : (m.put t).put t' = m.put t' := by
  rw [put, put, put, Phase.put_put]

lemma Progress.apply_of_ok {m : Progress} {before t t' : Tables} {c : Change α} {a : α}
    (hp : m.phase.tables? = some t) (h : c.run t = .ok (a, t')) :
    m.apply before c = (.ok a, m.put t') := by
  rw [apply, Phase.apply_of_ok hp h]
  rfl

lemma Progress.apply_of_error {m : Progress} {before t : Tables} {c : Change α} {f : Failure}
    (hp : m.phase.tables? = some t) (h : c.run t = .error f) :
    m.apply before c = (.error f, { m with phase := m.phase.refuse before f }) := by
  rw [apply, Phase.apply_of_error hp h]

lemma Progress.apply_of_over {m : Progress} {before : Tables} {c : Change α}
    (hp : m.phase.tables? = none) : m.apply before c = (.error (.agent finishedError), m) := by
  rw [apply, Phase.apply_of_over hp]

lemma At.tables {s : StoreState} {m : Progress} {t : Tables} (hs : At s₀ h m s)
    (hp : m.phase.tables? = some t) : s.connection.tables = t := by
  have hw := hs.working
  have hd := hs.durable
  obtain ⟨_ | ⟨_ | _, u⟩ | _ | _, e⟩ := m
  case underWay u => simpa [Connection.tables, hw, Phase.working?, Phase.tables?] using hp
  case ended.false =>
    simpa [Connection.tables, hw, hd, Phase.working?, Phase.durable, Phase.tables?] using hp
  all_goals cases hp

lemma At.put {s : StoreState} {m : Progress} {t : Tables} (hs : At s₀ h m s)
    (hp : m.phase.tables? = some t) (t' : Tables) :
    At s₀ h (m.put t') { s with connection := s.connection.put t' } := by
  have hw := hs.working
  obtain ⟨_ | ⟨_ | _, u⟩ | _ | _, e⟩ := m
  case underWay u =>
    have hput : s.connection.put t' = { s.connection with working := some t' } := by
      simp [Connection.put, hw, Phase.working?]
    rw [hput]
    exact ⟨hs.store, hs.now, hs.closed, hs.durable, rfl, hs.entropy, hs.finished, hs.lt_begun,
      hs.finished_lt⟩
  case ended.false =>
    have hput : s.connection.put t' = { s.connection with durable := t' } := by
      simp [Connection.put, hw, Phase.working?]
    rw [hput]
    exact ⟨hs.store, hs.now, hs.closed, rfl, hs.working, hs.entropy, hs.finished, hs.lt_begun,
      hs.finished_lt⟩
  all_goals cases hp

lemma At.refused {s : StoreState} {m : Progress} (hs : At s₀ h m s) (p : DatabaseProblem)
    (activity : Activity) (entity : Option String) :
    At s₀ h
      { m with phase := m.phase.refuse s₀.connection.durable (.agent (p.toAgentError activity entity)) }
      { s with connection := s.connection.refused p } := by
  have hw := hs.working
  obtain ⟨phase, e⟩ := m
  rw [Connection.refused]
  cases phase with
  | underWay u =>
    simp only [Phase.refuse, endsTransaction_toAgentError]
    split
    · exact ⟨hs.store, hs.now, hs.closed, hs.durable, rfl, hs.entropy, hs.finished, hs.lt_begun,
        hs.finished_lt⟩
    · exact hs
  | _ =>
    have hnone : s.connection.working = none := hw
    have hsame : (if p.endsTransaction then { s.connection with working := none }
        else s.connection) = s.connection := by rw [← hnone, ite_self]
    rw [hsame]
    exact hs

/-- How a statement ends, and what it leaves. -/
lemma exec_execute (h : Handle) (activity : Activity) (entity : Option String)
    (numbers : List Int) (f : Tables → Except DatabaseProblem (Tables × α)) (s : StoreState) :
    exec (execute h activity entity numbers f) s =
      if h ∈ s.finished then (.error (.agent finishedError), s)
      else if s.connection.closed then
        (.error (.agent (Connection.closedProblem.toAgentError activity entity)), s)
      else if numbers.any fun n => !fitsColumn n then (.error .integerRange, s)
      else
        (DatabaseProblem.explained activity entity (s.connection.run f).1,
          { s with connection := (s.connection.run f).2 }) := by
  simp only [execute, isFinished, exec_bind, exec_get, exec_pure, List.contains_iff_mem]
  by_cases hf : h ∈ s.finished
  · simp [hf, exec_bind, finishedError]
  · cases hc : s.connection.closed with
    | true => simp [hf, exec_bind, hc]
    | false =>
      by_cases hn : (numbers.any fun n => !fitsColumn n) = true
      · simp only [hf, hn, hc, if_true, if_false, exec_bind, exec_get, Bool.false_eq_true]
        rfl
      · simp only [hf, hn, hc, if_false, exec_bind, exec_get, exec_set, Bool.false_eq_true]
        rcases s.connection.run f with ⟨_ | _, c⟩ <;> rfl

/-- A statement acts on the working copy as long as nothing is decided, and is refused later. -/
lemma leads_execute (activity : Activity) (entity : Option String) (numbers : List Int)
    (f : Tables → Except DatabaseProblem (Tables × α)) (m : Progress) :
    Leads s₀ h (execute h activity entity numbers f) m
      (m.apply s₀.connection.durable (Change.statement activity entity numbers f)) := by
  intro s hs
  rw [exec_execute]
  cases hp : m.phase.tables? with
  | none =>
    rw [Progress.apply_of_over hp, if_pos (hs.finished.mpr (Phase.isOver_iff.mpr hp))]
    exact ⟨s, rfl, hs⟩
  | some t =>
    have hf : h ∉ s.finished := by
      rw [hs.finished, Phase.isOver_iff, hp]
      exact nofun
    rw [if_neg hf, if_neg (Bool.eq_false_iff.mp hs.closed)]
    by_cases hn : (numbers.any fun n => !fitsColumn n) = true
    · have hrun : (Change.statement activity entity numbers f).run t = .error .integerRange := by
        simp only [Change.statement, StateT.run, hn, if_true]
      have hkept : m.phase.refuse s₀.connection.durable .integerRange = m.phase := by
        cases m.phase <;> rfl
      rw [Progress.apply_of_error hp hrun, hkept, if_pos hn]
      exact ⟨s, rfl, hs⟩
    · rw [if_neg hn, Connection.run, if_neg (Bool.eq_false_iff.mp hs.closed), hs.tables hp]
      cases hft : f t with
      | error p =>
        have hrun : (Change.statement activity entity numbers f).run t =
            .error (.agent (p.toAgentError activity entity)) := by
          simp only [Change.statement, StateT.run, hn, if_false, hft, Bool.false_eq_true]
        rw [Progress.apply_of_error hp hrun]
        exact ⟨_, rfl, hs.refused p activity entity⟩
      | ok r =>
        obtain ⟨t', a⟩ := r
        have hrun : (Change.statement activity entity numbers f).run t = .ok (a, t') := by
          simp only [Change.statement, StateT.run, hn, if_false, hft, Bool.false_eq_true]
        rw [Progress.apply_of_ok hp hrun]
        exact ⟨_, rfl, hs.put hp t'⟩

/-- A query finds out about the tables and changes nothing. -/
lemma leads_query (activity : Activity) (entity : Option String) (numbers : List Int)
    (read : Tables → α) (m : Progress) :
    Leads s₀ h (query h activity entity numbers read) m
      (m.phase.look fun t =>
        if numbers.any fun n => !fitsColumn n then .error .integerRange else .ok (read t), m) := by
  have hrow := @leads_execute _ s₀ h activity entity numbers (fun t => .ok (t, read t)) m
  obtain ⟨phase, e⟩ := m
  cases hp : phase.tables? with
  | none =>
    rw [Progress.apply_of_over hp] at hrow
    rwa [Phase.look_of_over hp]
  | some t =>
    rw [Phase.look_of_tables hp]
    by_cases hn : (numbers.any fun n => !fitsColumn n) = true
    · have hrun : (Change.statement activity entity numbers fun t => .ok (t, read t)).run t =
          .error .integerRange := by
        simp only [Change.statement, StateT.run, hn, if_true]
      have hkept : phase.refuse s₀.connection.durable .integerRange = phase := by
        cases phase <;> rfl
      rw [Progress.apply_of_error hp hrun] at hrow
      simp only [hkept] at hrow
      rwa [if_pos hn]
    · have hrun : (Change.statement activity entity numbers fun t => .ok (t, read t)).run t =
          .ok (read t, t) := by
        simp only [Change.statement, StateT.run, hn, if_false, Bool.false_eq_true]
      have hkept : phase.put t = phase := by
        rcases phase with _ | ⟨_ | _, _⟩ | _ | _ <;>
          first | rfl | exact congrArg _ (Option.some.inj hp).symm
      rw [Progress.apply_of_ok hp hrun, Progress.put] at hrow
      simp only [hkept] at hrow
      rwa [if_neg hn]

def nothingToCommitError : AgentError :=
  DatabaseProblem.nothingToCommit.toAgentError .commitTransaction none

/-- A commit decides a transaction once. -/
def Progress.commit (m : Progress) : Except Failure Unit × Progress :=
  match m.phase with
  | .underWay t => (.ok (), { m with phase := .committed t })
  | _ => (.error (.agent nothingToCommitError), m)

/-- A rollback of a transaction that is over changes nothing. -/
def Progress.rollback (m : Progress) : Except Failure Unit × Progress :=
  match m.phase with
  | .underWay _ => (.ok (), { m with phase := .rolledBack })
  | .ended _ t => (.ok (), { m with phase := .ended true t })
  | _ => (.ok (), m)

/-- `s` once its transaction `h` is over, whatever becomes of the tables. -/
lemma At.finish {s : StoreState} {m : Progress} {p : Phase} (hs : At s₀ h m s)
    (hover : p.isOver = true) {c : Connection} (hclosed : c.closed = false)
    (hdurable : c.durable = p.durable s₀.connection.durable) (hworking : c.working = none) :
    At s₀ h ⟨p, m.entropy⟩ { s with connection := c, finished := h :: s.finished } where
  store := hs.store
  now := hs.now
  closed := hclosed
  durable := hdurable
  working := by
    cases p with
    | underWay t => simp [Phase.isOver] at hover
    | ended finished t => exact hworking
    | committed t => exact hworking
    | rolledBack => exact hworking
  entropy := hs.entropy
  finished := by simp [hover]
  lt_begun := hs.lt_begun
  finished_lt := by
    intro k hk
    rcases List.mem_cons.mp hk with rfl | hk
    · exact hs.lt_begun
    · exact hs.finished_lt k hk

lemma leads_commit (m : Progress) : Leads s₀ h (commit h) m m.commit := by
  intro s hs
  obtain ⟨phase, e⟩ := m
  have hc := hs.closed
  have hw := hs.working
  cases phase with
  | underWay t =>
    have hw : s.connection.working = some t := hw
    simp only [commit, StoreM.onConnection, exec_bind, exec_get, Connection.commit,
      hc, hw, Bool.false_eq_true, if_false, Except.map, Progress.commit]
    exact ⟨_, rfl, At.record (hs.finish (p := .committed t) (c := { durable := t }) rfl rfl rfl rfl)
      _ _ _⟩
  | _ =>
    have hw : s.connection.working = none := hw
    refine ⟨s, ?_, hs⟩
    simp [commit, StoreM.onConnection, exec_bind, Connection.commit, hc, hw, Except.map,
      Progress.commit, nothingToCommitError]

lemma leads_rollback (m : Progress) : Leads s₀ h (rollback h) m m.rollback := by
  intro s hs
  obtain ⟨phase, e⟩ := m
  have hc := hs.closed
  have hw := hs.working
  have hd := hs.durable
  cases phase with
  | underWay t =>
    have hw : s.connection.working = some t := hw
    simp only [rollback, finish, exec_bind, exec_get, exec_modify,
      Connection.rollback, hc, hw, Bool.false_eq_true, if_false, Option.isSome_some, if_true,
      Progress.rollback]
    exact ⟨_, rfl, At.record (hs.finish (p := .rolledBack)
      (c := { durable := s.connection.durable }) rfl rfl hd rfl) _ _ _⟩
  | ended finished t =>
    have hw : s.connection.working = none := hw
    simp only [rollback, finish, exec_bind, exec_get, exec_modify,
      Connection.rollback, hc, hw, Bool.false_eq_true, if_false, Option.isSome_none,
      Progress.rollback]
    exact ⟨_, rfl, At.record (hs.finish (p := .ended true t) (c := s.connection) rfl hc hd hw)
      _ _ _⟩
  | committed t =>
    have hw : s.connection.working = none := hw
    simp only [rollback, finish, exec_bind, exec_get, exec_modify,
      Connection.rollback, hc, hw, Bool.false_eq_true, if_false, Option.isSome_none,
      Progress.rollback]
    exact ⟨_, rfl, At.record (hs.finish (p := .committed t) (c := s.connection) rfl hc hd hw) _ _ _⟩
  | rolledBack =>
    have hw : s.connection.working = none := hw
    simp only [rollback, finish, exec_bind, exec_get, exec_modify,
      Connection.rollback, hc, hw, Bool.false_eq_true, if_false, Option.isSome_none,
      Progress.rollback]
    exact ⟨_, rfl, At.record (hs.finish (p := .rolledBack) (c := s.connection) rfl hc hd hw) _ _ _⟩

lemma leads_isFinished (m : Progress) :
    Leads s₀ h (isFinished h) m (.ok m.phase.isOver, m) := by
  intro s hs
  refine ⟨s, ?_, hs⟩
  have hf : s.finished.contains h = m.phase.isOver := by
    rw [Bool.eq_iff_iff, ← hs.finished]
    simp
  simp only [isFinished, exec_bind, exec_get, exec_pure, hf]

lemma exec_begin {s : StoreState} (hs : s.Idle) (hc : s.connection.closed = false) (write : Bool) :
    ∃ s', exec (begin_ write) s = (.ok s.begun, s') ∧
      At s s.begun ⟨.underWay s.connection.durable, s.entropy⟩ s' := by
  have hw := hs.working
  simp only [begin_, exec_bind, exec_get, hc, Bool.false_eq_true, if_false, exec_pure,
    StoreM.onConnection, Connection.begin_, hw, Option.isSome_none, Except.map, exec_set,
    StoreM.record, exec_modify, exec_modifyGet]
  refine ⟨_, rfl, rfl, rfl, rfl, rfl, rfl, rfl, ?_, Nat.lt_succ_self _, ?_⟩
  · simp only [Phase.isOver, Bool.false_eq_true, iff_false]
    exact fun hm => Nat.lt_irrefl _ (hs.finished_lt _ hm)
  · exact fun k hk => Nat.lt_succ_of_lt (hs.finished_lt k hk)

/-- `s` once no transaction is under way any more, with `d` as the durable tables. -/
structure Settled (s₀ : StoreState) (d : Tables) (e : Entropy) (s : StoreState) : Prop where
  store : s.store = s₀.store
  now : s.now = s₀.now
  closed : s.connection.closed = false
  durable : s.connection.durable = d
  entropy : s.entropy = e
  idle : s.Idle

lemma At.settled {s : StoreState} {m : Progress} (hs : At s₀ h m s)
    (hover : m.phase.isOver = true) :
    Settled s₀ (m.phase.durable s₀.connection.durable) m.entropy s where
  store := hs.store
  now := hs.now
  closed := hs.closed
  durable := hs.durable
  entropy := hs.entropy
  idle := by
    refine ⟨?_, hs.finished_lt⟩
    rw [hs.working]
    obtain ⟨_ | _ | _ | _, e⟩ := m <;> first | rfl | exact nomatch hover

/-- Leaving a block drops what has not been committed. -/
lemma exec_leave {s : StoreState} {m : Progress} (hs : At s₀ h m s) :
    ∃ s', exec (leave h) s = (.ok (), s') ∧
      Settled s₀ (m.phase.durable s₀.connection.durable) m.entropy s' := by
  obtain ⟨s₁, h₁, hat₁⟩ := leads_isFinished m s hs
  rw [leave, exec_bind_ok h₁]
  cases hover : m.phase.isOver with
  | true => exact ⟨s₁, rfl, hat₁.settled hover⟩
  | false =>
    obtain ⟨s₂, h₂, hat₂⟩ := leads_rollback m s₁ hat₁
    obtain ⟨phase, e⟩ := m
    cases phase with
    | underWay t => exact ⟨s₂, h₂, hat₂.settled rfl⟩
    | ended finished t => exact ⟨s₂, h₂, hat₂.settled rfl⟩
    | committed t => simp [Phase.isOver] at hover
    | rolledBack => simp [Phase.isOver] at hover

section

variable {σ ρ : Type} {lift : {β : Type} → StoreM β → ExceptT Failure (StateM σ) β}
  (view : σ → StoreState) (rest : σ → ρ)

/-- A block in any setting that has a store: it ends as its body does, and only what the body has
committed is durable afterwards. -/
lemma exec_scope {body : Handle → ExceptT Failure (StateM σ) α} {w : σ} {m : Progress}
    {o : Except Failure α} {r : ρ} (write : Bool)
    (hlift : ∀ {β : Type} (x : StoreM β) (v : σ), ∃ v', exec (lift x) v =
      ((exec x (view v)).1, v') ∧ view v' = (exec x (view v)).2 ∧ rest v' = rest v)
    (hs : (view w).Idle) (hc : (view w).connection.closed = false)
    (hbody : ∀ v, rest v = rest w → At (view w) (view w).begun
        ⟨.underWay (view w).connection.durable, (view w).entropy⟩ (view v) →
      ∃ v', exec (body (view w).begun) v = (o, v') ∧ rest v' = r ∧
        At (view w) (view w).begun m (view v')) :
    ∃ w', exec (scope lift write body) w = (o, w') ∧ rest w' = r ∧
      Settled (view w) (m.phase.durable (view w).connection.durable) m.entropy (view w') := by
  obtain ⟨s₁, h₁, hat₁⟩ := exec_begin hs hc write
  obtain ⟨v₁, hv₁, hview₁, hrest₁⟩ := hlift (begin_ write) w
  rw [h₁] at hv₁ hview₁
  subst hview₁
  obtain ⟨v₂, hv₂, hrest₂, hat₂⟩ := hbody v₁ hrest₁ hat₁
  obtain ⟨s₃, h₃, hset⟩ := exec_leave hat₂
  obtain ⟨v₃, hv₃, hview₃, hrest₃⟩ := hlift (leave (view w).begun) v₂
  rw [h₃] at hv₃ hview₃
  subst hview₃
  refine ⟨v₃, ?_, hrest₃.trans hrest₂, hset⟩
  rw [scope, exec_bind_ok hv₁, exec_bind, exec_caught, hv₂]
  simp only [exec_bind_ok hv₃]
  cases o <;> rfl

lemma exec_begin_of_closed {s : StoreState} (hc : s.connection.closed = true) (write : Bool) :
    exec (begin_ write) s = (.error (.agent (closedError s.store)), s) := by
  simp only [begin_, exec_bind, exec_get, hc, if_true, StoreM.exec_fail]

end

/-- A block of store operations. -/
lemma exec_scope_id {body : Handle → StoreM α} {s : StoreState} {r : Except Failure α × Progress}
    (write : Bool) (hs : s.Idle) (hc : s.connection.closed = false)
    (hbody : Leads s s.begun (body s.begun)
      ⟨.underWay s.connection.durable, s.entropy⟩ r) :
    ∃ s', exec (scope (fun x => x) write body) s = (r.1, s') ∧
      Settled s (r.2.phase.durable s.connection.durable) r.2.entropy s' := by
  obtain ⟨s', h', -, hset⟩ := exec_scope id (fun _ => ()) write
    (fun x v => ⟨_, rfl, rfl, rfl⟩) hs hc
    (fun v _ hv => by
      obtain ⟨v', hv', hat⟩ := hbody v hv
      exact ⟨v', hv', rfl, hat⟩)
  exact ⟨s', h', hset⟩

/-- A closed store begins no transaction. -/
lemma exec_scope_of_closed {body : Handle → StoreM α} {s : StoreState}
    (hc : s.connection.closed = true) (write : Bool) :
    exec (scope (fun x => x) write body) s = (.error (.agent (closedError s.store)), s) := by
  rw [scope]
  exact exec_bind_error (exec_begin_of_closed hc write)

end Transaction

end MeshAgent
