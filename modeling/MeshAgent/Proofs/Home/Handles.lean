import MeshAgent.Proofs.Home.Reachable

/-!
# Handles

The transactions of a connection are asked through handles, through any number of them and in any
order. A handle that has finished runs no statement, and its block ends without effect. But a commit or
a rollback that is asked of it reaches the connection, and ends a transaction that another handle has
begun there. If nobody asks that, and if the database itself ends no transaction, the transaction that
is under way can be changed through the handle that has begun it, and through no other.
-/
namespace MeshAgent

open Transaction

/-- What can be asked of a connection, or of the handle of a transaction. -/
inductive HandleStep : Type 1
  | start (write : Bool)
  | execute {α : Type} (h : Handle) (activity : Activity) (entity : Option String)
      (numbers : List Int) (statement : Tables → Except DatabaseProblem (Tables × α))
  | commit (h : Handle)
  | rollback (h : Handle)
  | leave (h : Handle)

namespace HandleStep

/-- The handle that is asked. -/
def handle? : HandleStep → Option Handle
  | start _ => none
  | execute h .. => some h
  | commit h => some h
  | rollback h => some h
  | leave h => some h

lemma eq_start_of_handle? {c : HandleStep} (h : c.handle? = none) : ∃ write, c = start write := by
  cases c with
  | start write => exact ⟨write, rfl⟩
  | _ => cases h

/-- The state that a step leaves, however it ends. -/
def next (s : StoreState) : HandleStep → StoreState
  | start write => (exec (begin_ write) s).2
  | execute h activity entity numbers statement =>
    (exec (Transaction.execute h activity entity numbers statement) s).2
  | commit h => (exec (Transaction.commit h) s).2
  | rollback h => (exec (Transaction.rollback h) s).2
  | leave h => (exec (Transaction.leave h) s).2

/-- No finished handle is asked to end a transaction that is under way, and the database ends none. -/
def Orderly (s : StoreState) : HandleStep → Prop
  | start _ => True
  | execute h activity entity numbers statement =>
    ((execute h activity entity numbers statement).next s).connection.working.isSome =
      s.connection.working.isSome
  | commit h => h ∈ s.finished → s.connection.working = none
  | rollback h => h ∈ s.finished → s.connection.working = none
  | leave _ => True

/-- The handle that is asked, if any, has been begun since `first` was the next one. -/
def Asks (first : Handle) (s : StoreState) (c : HandleStep) : Prop :=
  ∀ h, c.handle? = some h → first ≤ h ∧ h < s.begun

end HandleStep

/-- States that allowed steps lead to. The handles that are asked have been begun on the way, after
`first` was the next one. -/
inductive HandleRun (allowed : StoreState → HandleStep → Prop) (first : Handle) (s : StoreState) :
    StoreState → Prop
  | refl : HandleRun allowed first s s
  | step {t : StoreState} (c : HandleStep) : HandleRun allowed first s t → c.Asks first t →
    allowed t c → HandleRun allowed first s (c.next t)

lemma HandleRun.imp {allowed allowed' : StoreState → HandleStep → Prop} {first : Handle}
    {s s' : StoreState} (hrun : HandleRun allowed first s s')
    (h : ∀ t c, allowed t c → allowed' t c) : HandleRun allowed' first s s' := by
  induction hrun with
  | refl => exact .refl
  | step c _ hasks hallowed ih => exact .step c ih hasks (h _ _ hallowed)

/-- The transaction that is under way has been begun with the handle. -/
inductive Owns (h : Handle) : StoreState → Prop
  | begun {write : Bool} {s s' : StoreState} : exec (begin_ write) s = (.ok h, s') → Owns h s'
  | kept {s : StoreState} (c : HandleStep) : Owns h s → (c.next s).connection.working.isSome →
    Owns h (c.next s)

/-! ## Single steps -/

lemma Connection.closed_run {α : Type} (c : Connection)
    (statement : Tables → Except DatabaseProblem (Tables × α)) :
    (c.run statement).2.closed = c.closed := by
  rw [run]
  split
  · rfl
  · cases statement c.tables with
    | ok r =>
      change (c.put r.1).closed = c.closed
      rw [put]
      cases c.working <;> rfl
    | error p =>
      change (c.refused p).closed = c.closed
      rw [refused]
      split <;> rfl

namespace Transaction

variable {α : Type} {s : StoreState} {h : Handle}

/-- A transaction begins if none is under way; otherwise nothing happens. -/
lemma exec_begin_cases (s : StoreState) (write : Bool) :
    ((∃ f, (exec (begin_ write) s).1 = .error f) ∧ (exec (begin_ write) s).2 = s ∧
      (s.connection.closed = false → s.connection.working.isSome)) ∨
    s.connection.closed = false ∧ s.connection.working = none ∧
      (exec (begin_ write) s).1 = .ok s.begun ∧
      (exec (begin_ write) s).2.connection =
        { s.connection with working := some s.connection.durable } ∧
      (exec (begin_ write) s).2.begun = s.begun + 1 ∧
      (exec (begin_ write) s).2.finished = s.finished := by
  cases hc : s.connection.closed with
  | true =>
    rw [exec_begin_of_closed hc]
    exact .inl ⟨⟨_, rfl⟩, rfl, nofun⟩
  | false =>
    cases hw : s.connection.working with
    | some t =>
      left
      simp [begin_, exec_bind, hc, hw, StoreM.onConnection, Connection.begin_, Except.map]
    | none =>
      right
      simp [begin_, exec_bind, hc, hw, StoreM.onConnection, Connection.begin_, Except.map,
        StoreM.record, Surroundings.record]

/-- A commit makes durable what the transaction that is under way has done, whoever has begun it. -/
lemma exec_commit_cases (h : Handle) (s : StoreState) :
    (s.connection.closed = false → s.connection.working = none) ∧ (exec (commit h) s).2 = s ∨
    ∃ t, s.connection.working = some t ∧
      (exec (commit h) s).2.connection = { s.connection with durable := t, working := none } ∧
      (exec (commit h) s).2.begun = s.begun ∧
      (exec (commit h) s).2.finished = h :: s.finished := by
  cases hc : s.connection.closed with
  | true =>
    left
    simp [commit, exec_bind, hc, StoreM.onConnection, Connection.commit, Except.map]
  | false =>
    cases hw : s.connection.working with
    | none =>
      left
      simp [commit, exec_bind, hc, hw, StoreM.onConnection, Connection.commit, Except.map]
    | some t =>
      right
      simp [commit, exec_bind, hc, hw, StoreM.onConnection, Connection.commit, Except.map,
        StoreM.record, Surroundings.record, finish]

/-- A rollback drops the transaction that is under way, whoever has begun it. -/
lemma exec_rollback (h : Handle) (s : StoreState) :
    (exec (rollback h) s).2.connection =
        (if s.connection.closed then s.connection else { s.connection with working := none }) ∧
      (exec (rollback h) s).2.begun = s.begun ∧
      (exec (rollback h) s).2.finished = h :: s.finished := by
  cases hc : s.connection.closed with
  | true =>
    simp [rollback, exec_bind, hc, finish, Connection.rollback, StoreM.record, Surroundings.record]
  | false =>
    cases hw : s.connection.working with
    | none =>
      have hsame : ({ s.connection with working := none } : Connection) = s.connection := by
        rw [← hw]
      rw [hsame]
      simp [rollback, exec_bind, hc, hw, finish, Connection.rollback, StoreM.record,
        Surroundings.record]
    | some t =>
      simp [rollback, exec_bind, hc, hw, finish, Connection.rollback, StoreM.record,
        Surroundings.record]

/-- The end of a block rolls back unless its handle has finished. -/
lemma exec_leave_eq (h : Handle) (s : StoreState) :
    exec (leave h) s = if h ∈ s.finished then (.ok (), s) else exec (rollback h) s := by
  simp only [leave, isFinished, exec_bind, exec_get, exec_pure, List.contains_iff_mem]
  split <;> simp_all

end Transaction

/-! ## Finished handles -/

/-- A handle is spent: its statements are refused, and its block ends without effect. A commit or a
rollback is without effect if no transaction is under way, and ends one that is. -/
structure Spent (h : Handle) (s : StoreState) : Prop where
  execute : ∀ {α : Type} (activity : Activity) (entity : Option String) (numbers : List Int)
    (statement : Tables → Except DatabaseProblem (Tables × α)),
    exec (Transaction.execute h activity entity numbers statement) s =
      (.error (.agent finishedError), s)
  leave : exec (Transaction.leave h) s = (.ok (), s)
  commit : s.connection.working = none → (exec (Transaction.commit h) s).2 = s
  rollback : s.connection.working = none →
    (exec (Transaction.rollback h) s).2.connection = s.connection
  commit_other : ∀ t, s.connection.working = some t → s.connection.closed = false →
    (exec (Transaction.commit h) s).2.connection =
      { s.connection with durable := t, working := none }
  rollback_other : s.connection.closed = false →
    (exec (Transaction.rollback h) s).2.connection = { s.connection with working := none }

lemma spent_of_finished {h : Handle} {s : StoreState} (hh : h ∈ s.finished) : Spent h s := by
  constructor
  case execute => exact fun activity entity numbers f => by rw [exec_execute, if_pos hh]
  case leave => rw [exec_leave_eq, if_pos hh]
  case commit =>
    intro hw
    rcases exec_commit_cases h s with ⟨-, hsame⟩ | ⟨t, ht, -⟩
    · exact hsame
    · rw [hw] at ht
      cases ht
  case rollback =>
    intro hw
    rw [(exec_rollback h s).1]
    split
    · rfl
    · rw [← hw]
  case commit_other =>
    intro t hw hc
    rcases exec_commit_cases h s with ⟨hnone, -⟩ | ⟨t', ht', hconnection, -⟩
    · rw [hnone hc] at hw
      cases hw
    · obtain rfl : t = t' := Option.some.inj (hw.symm.trans ht')
      exact hconnection
  case rollback_other =>
    intro hc
    rw [(exec_rollback h s).1, hc, if_neg Bool.false_ne_true]

namespace HandleStep

variable {first : Handle} {s : StoreState}

/-- An orderly step on a finished handle leaves the connection alone. -/
lemma connection_next_of_finished {c : HandleStep} {h : Handle} (hc : c.handle? = some h)
    (hh : h ∈ s.finished) (horderly : c.Orderly s) : (c.next s).connection = s.connection := by
  have hspent := spent_of_finished hh
  cases c with
  | start write => cases hc
  | execute k activity entity numbers f =>
    obtain rfl := Option.some.inj hc
    rw [next, hspent.execute]
  | commit k =>
    obtain rfl := Option.some.inj hc
    rw [next, hspent.commit (horderly hh)]
  | rollback k =>
    obtain rfl := Option.some.inj hc
    rw [next, hspent.rollback (horderly hh)]
  | leave k =>
    obtain rfl := Option.some.inj hc
    rw [next, hspent.leave]

/-- No handle is ever unfinished again. -/
lemma finished_next (c : HandleStep) {h : Handle} (hh : h ∈ s.finished) :
    h ∈ (c.next s).finished := by
  cases c with
  | start write =>
    rcases exec_begin_cases s write with ⟨-, hsame, -⟩ | ⟨-, -, -, -, -, hfinished⟩
    · rwa [next, hsame]
    · rwa [next, hfinished]
  | execute k activity entity numbers f =>
    rw [next, exec_execute]
    split_ifs <;> exact hh
  | commit k =>
    rcases exec_commit_cases k s with ⟨-, hsame⟩ | ⟨t, -, -, -, hfinished⟩
    · rwa [next, hsame]
    · rw [next, hfinished]
      exact List.mem_cons_of_mem k hh
  | rollback k =>
    rw [next, (exec_rollback k s).2.2]
    exact List.mem_cons_of_mem k hh
  | leave k =>
    rw [next, exec_leave_eq]
    split
    · exact hh
    · rw [(exec_rollback k s).2.2]
      exact List.mem_cons_of_mem k hh

end HandleStep

lemma HandleRun.finished {allowed : StoreState → HandleStep → Prop} {first : Handle}
    {s s' : StoreState} (hrun : HandleRun allowed first s s') {h : Handle} (hh : h ∈ s.finished) :
    h ∈ s'.finished := by
  induction hrun with
  | refl => exact hh
  | step c _ _ _ ih => exact c.finished_next ih

/-! ## The handle of the transaction that is under way -/

/-- The handle that has been begun last is the only one that can be unfinished, and it is as long as a
transaction is under way. -/
structure Sole (first : Nat) (s : StoreState) : Prop where
  earlier : ∀ h : Nat, first ≤ h → h + 1 < s.begun → h ∈ s.finished
  last : ∀ h : Nat, first ≤ h → h + 1 = s.begun → (h ∈ s.finished ↔ s.connection.working = none)
  finished_lt : ∀ h : Nat, h ∈ s.finished → h < s.begun
  closed : s.connection.closed = true → s.connection.working = none
  begun : first ≤ s.begun
  begun_of_working : s.connection.working.isSome → first < s.begun

lemma StoreState.Idle.sole {s : StoreState} (hs : s.Idle) : Sole s.begun s where
  earlier h hle hlt := by omega
  last h hle heq := by omega
  finished_lt := hs.finished_lt
  closed _ := hs.working
  begun := Nat.le_refl _
  begun_of_working hworking := by
    rw [hs.working] at hworking
    cases hworking

namespace Sole

variable {first : Nat} {s : StoreState}

/-- A handle of the run that has not finished is the last one, and its transaction is under way. -/
lemma of_not_finished (hs : Sole first s) {h : Nat} (hle : first ≤ h) (hlt : h < s.begun)
    (hh : h ∉ s.finished) : h + 1 = s.begun ∧ s.connection.working ≠ none := by
  have heq : h + 1 = s.begun := by
    by_contra hne
    exact hh (hs.earlier h hle (by omega))
  exact ⟨heq, fun hnone => hh ((hs.last h hle heq).mpr hnone)⟩

lemma start (hs : Sole first s) (write : Bool) : Sole first ((HandleStep.start write).next s) := by
  rcases exec_begin_cases s write with ⟨-, hsame, -⟩ |
    ⟨hc, hw, -, hconnection, hbegun, hfinished⟩
  · rwa [HandleStep.next, hsame]
  · rw [HandleStep.next]
    constructor
    case earlier =>
      intro h hle hlt
      rw [hbegun] at hlt
      rw [hfinished]
      by_cases heq : h + 1 = s.begun
      · exact (hs.last h hle heq).mpr hw
      · exact hs.earlier h hle (by omega)
    case last =>
      intro h _ heq
      rw [hbegun] at heq
      rw [hfinished, hconnection]
      refine ⟨fun hh => ?_, nofun⟩
      have hlt := hs.finished_lt h hh
      omega
    case finished_lt =>
      intro h hh
      rw [hfinished] at hh
      rw [hbegun]
      exact Nat.lt_succ_of_lt (hs.finished_lt h hh)
    case closed =>
      rw [hconnection]
      exact fun hclosed => absurd hclosed (Bool.eq_false_iff.mp hc)
    case begun => exact hbegun ▸ Nat.le_succ_of_le hs.begun
    case begun_of_working => exact fun _ => hbegun ▸ Nat.lt_succ_of_le hs.begun

lemma congr (hs : Sole first s) {s' : StoreState}
    (hworking : s'.connection.working.isSome = s.connection.working.isSome)
    (hclosed : s'.connection.closed = s.connection.closed) (hbegun : s'.begun = s.begun)
    (hfinished : ∀ h, h ∈ s'.finished ↔ h ∈ s.finished) : Sole first s' := by
  have hnone : s'.connection.working = none ↔ s.connection.working = none := by
    rw [← Option.isNone_iff_eq_none, ← Option.isNone_iff_eq_none, ← Option.not_isSome,
      ← Option.not_isSome, hworking]
  constructor
  case earlier =>
    intro h hle hlt
    rw [hbegun] at hlt
    exact (hfinished h).mpr (hs.earlier h hle hlt)
  case last =>
    intro h hle heq
    rw [hbegun] at heq
    rw [hfinished, hs.last h hle heq, hnone]
  case finished_lt =>
    intro h hh
    rw [hbegun]
    exact hs.finished_lt h ((hfinished h).mp hh)
  case closed =>
    intro hc
    rw [hclosed] at hc
    exact hnone.mpr (hs.closed hc)
  case begun => exact hbegun ▸ hs.begun
  case begun_of_working => exact fun h => hbegun ▸ hs.begun_of_working (hworking ▸ h)

/-- What ends the transaction under way, if there is one, and finishes the last handle. -/
lemma ended (hs : Sole first s) {s' : StoreState} {h : Nat} (hle : first ≤ h) (hlt : h < s.begun)
    (hh : h ∉ s.finished) (hworking : s'.connection.working = none) (hbegun : s'.begun = s.begun)
    (hfinished : s'.finished = h :: s.finished) : Sole first s' := by
  obtain ⟨hlast, -⟩ := hs.of_not_finished hle hlt hh
  constructor
  case earlier =>
    intro k hk hkb
    rw [hbegun] at hkb
    rw [hfinished]
    exact List.mem_cons_of_mem h (hs.earlier k hk hkb)
  case last =>
    intro k _ hkb
    rw [hbegun] at hkb
    obtain rfl : k = h := by omega
    rw [hfinished]
    exact ⟨fun _ => hworking, fun _ => List.mem_cons_self⟩
  case finished_lt =>
    intro k hk
    rw [hfinished] at hk
    rw [hbegun]
    rcases List.mem_cons.mp hk with rfl | hk
    · exact hlt
    · exact hs.finished_lt k hk
  case closed => exact fun _ => hworking
  case begun => exact hbegun ▸ hs.begun
  case begun_of_working =>
    intro h
    rw [hworking] at h
    cases h

lemma rollback (hs : Sole first s) {h : Nat} (hle : first ≤ h) (hlt : h < s.begun)
    (hh : h ∉ s.finished) : Sole first ((HandleStep.rollback h).next s) := by
  obtain ⟨hconnection, hbegun, hfinished⟩ := exec_rollback h s
  have hopen : s.connection.closed = false :=
    Bool.eq_false_iff.mpr fun hc => (hs.of_not_finished hle hlt hh).2 (hs.closed hc)
  refine hs.ended hle hlt hh ?_ hbegun hfinished
  rw [HandleStep.next, hconnection, hopen, if_neg Bool.false_ne_true]

/-- Every orderly step keeps the last handle the only one that can be unfinished. -/
theorem next (hs : Sole first s) {c : HandleStep} (hasks : c.Asks first s)
    (horderly : c.Orderly s) : Sole first (c.next s) := by
  cases c with
  | start write => exact hs.start write
  | execute h activity entity numbers f =>
    refine hs.congr horderly ?_ ?_ fun k => ?_
    all_goals
      rw [HandleStep.next, exec_execute]
      split_ifs <;> first | rfl | exact s.connection.closed_run f
  | commit h =>
    obtain ⟨hle, hlt⟩ := hasks h rfl
    rcases exec_commit_cases h s with ⟨-, hsame⟩ | ⟨t, ht, hconnection, hbegun, hfinished⟩
    · rwa [HandleStep.next, hsame]
    · have hh : h ∉ s.finished := fun hh => by
        rw [horderly hh] at ht
        cases ht
      refine hs.ended hle hlt hh ?_ hbegun hfinished
      rw [HandleStep.next, hconnection]
  | rollback h =>
    obtain ⟨hle, hlt⟩ := hasks h rfl
    by_cases hh : h ∈ s.finished
    · have hconnection := HandleStep.connection_next_of_finished rfl hh horderly
      obtain ⟨-, hbegun, hfinished⟩ := exec_rollback h s
      refine hs.congr (by rw [hconnection]) (by rw [hconnection]) hbegun fun k => ?_
      rw [HandleStep.next, hfinished, List.mem_cons]
      exact or_iff_right_of_imp fun hk => hk ▸ hh
    · exact hs.rollback hle hlt hh
  | leave h =>
    obtain ⟨hle, hlt⟩ := hasks h rfl
    by_cases hh : h ∈ s.finished
    · rwa [HandleStep.next, (spent_of_finished hh).leave]
    · rw [HandleStep.next, exec_leave_eq, if_neg hh]
      exact hs.rollback hle hlt hh

end Sole

lemma HandleRun.sole {first : Handle} {s s' : StoreState} (hs : Sole first s)
    (hrun : HandleRun (fun s c => c.Orderly s) first s s') : Sole first s' := by
  induction hrun with
  | refl => exact hs
  | step c _ hasks horderly ih => exact ih.next hasks horderly

/-- As long as a transaction is under way, the handle that has begun it is the last one. -/
lemma Owns.last {owner : Nat} {s : StoreState} (h : Owns owner s) :
    s.connection.working.isSome ∧ owner + 1 = s.begun := by
  induction h with
  | @begun write s s' hbegin =>
    rcases exec_begin_cases s write with ⟨⟨f, hf⟩, -⟩ | ⟨-, -, hok, hconnection, hbegun, -⟩
    · rw [hbegin] at hf
      cases hf
    · rw [hbegin] at hok hconnection hbegun
      rw [hconnection, hbegun, Except.ok.inj hok]
      exact ⟨rfl, rfl⟩
  | @kept s c _ hworking ih =>
    obtain ⟨hbefore, hlast⟩ := ih
    refine ⟨hworking, hlast.trans ?_⟩
    cases c with
    | start write =>
      rcases exec_begin_cases s write with ⟨-, hsame, -⟩ | ⟨-, hnone, -⟩
      · rw [HandleStep.next, hsame]
      · rw [hnone] at hbefore
        cases hbefore
    | execute k activity entity numbers f =>
      rw [HandleStep.next, exec_execute]
      split_ifs <;> rfl
    | commit k =>
      rcases exec_commit_cases k s with ⟨-, hsame⟩ | ⟨t, -, -, hbegun, -⟩
      · rw [HandleStep.next, hsame]
      · exact hbegun.symm
    | rollback k => exact (exec_rollback k s).2.1.symm
    | leave k =>
      rw [HandleStep.next, exec_leave_eq]
      split
      · rfl
      · exact (exec_rollback k s).2.1.symm

namespace Site

variable {w : Site}

/-- Take any steps on the connection of a reachable store, on any handles that are begun on the way.
Once a handle has finished it stays so, and is spent.

If no finished handle is asked to end a transaction that is under way, and the database ends none, then
of all handles only the one that has begun the transaction under way is unfinished, and only a step on
that handle can change anything in the database. -/
theorem finished_handles_are_spent (hw : Reachable w) :
    (∀ s h s', HandleRun (fun _ _ => True) w.state.begun w.state s → h ∈ s.finished →
      HandleRun (fun _ _ => True) w.state.begun s s' → h ∈ s'.finished ∧ Spent h s') ∧
    ∀ s owner, HandleRun (fun s c => c.Orderly s) w.state.begun w.state s → Owns owner s →
      (∀ h, w.state.begun ≤ h → h < s.begun → (h ∈ s.finished ↔ h ≠ owner)) ∧
      ∀ c : HandleStep, c.Asks w.state.begun s → c.Orderly s →
        (c.next s).connection ≠ s.connection → c.handle? = some owner := by
  refine ⟨fun s h s' _ hh hrun => ?_, fun s owner hrun howns => ?_⟩
  · have hlater := hrun.finished hh
    exact ⟨hlater, spent_of_finished hlater⟩
  · have hsole := hrun.sole hw.spec.1.idle.sole
    obtain ⟨hworking, hlast⟩ := howns.last
    have hothers : ∀ h, w.state.begun ≤ h → h < s.begun → (h ∈ s.finished ↔ h ≠ owner) := by
      intro h hle hlt
      constructor
      · rintro hh rfl
        rw [(hsole.last h hle hlast).mp hh] at hworking
        cases hworking
      · intro hne
        by_contra hh
        obtain ⟨hlast', -⟩ := hsole.of_not_finished hle hlt hh
        exact hne (Nat.succ.inj (hlast'.trans hlast.symm))
    refine ⟨hothers, fun c hasks horderly hchanges => ?_⟩
    cases hhandle : c.handle? with
    | none =>
      obtain ⟨write, rfl⟩ := c.eq_start_of_handle? hhandle
      rcases exec_begin_cases s write with ⟨-, hsame, -⟩ | ⟨-, hnone, -⟩
      · exact absurd (congrArg (·.connection) hsame) hchanges
      · rw [hnone] at hworking
        cases hworking
    | some h =>
      by_contra hne
      obtain ⟨hle, hlt⟩ := hasks h hhandle
      have hh := (hothers h hle hlt).mpr fun heq => hne (congrArg some heq)
      exact hchanges (HandleStep.connection_next_of_finished hhandle hh horderly)

/-- One transaction has been committed, and another one has been begun. -/
theorem finished_handles_are_spent_of_two :
    let s : StoreState := (HandleStep.start true).next
      ((HandleStep.commit 0).next ((HandleStep.start true).next blank.state))
    (0 ∈ s.finished ∧ Spent 0 s) ∧
      ∀ h, 0 ≤ h → h < s.begun → (h ∈ s.finished ↔ h ≠ 1) := by
  intro s
  have hbegun : HandleRun (fun s c => c.Orderly s) 0 blank.state
      ((HandleStep.start true).next blank.state) := .step _ .refl nofun trivial
  have hcommitted : HandleRun (fun s c => c.Orderly s) 0 blank.state
      ((HandleStep.commit 0).next ((HandleStep.start true).next blank.state)) := by
    refine .step _ hbegun (fun h hh => ?_) fun hh => absurd hh (by decide)
    obtain rfl := Option.some.inj hh
    decide
  have hrun : HandleRun (fun s c => c.Orderly s) 0 blank.state s := .step _ hcommitted nofun trivial
  have howns : Owns 1 s :=
    @Owns.begun 1 true ((HandleStep.commit 0).next ((HandleStep.start true).next blank.state)) s rfl
  obtain ⟨hspent, hsole⟩ := finished_handles_are_spent reachable_blank
  exact ⟨hspent s 0 s (hrun.imp fun _ _ _ => trivial) (by decide) .refl, (hsole s 1 hrun howns).1⟩

/-- A handle that has committed commits again, and with that what another handle has written; and a
handle whose transaction the database has rolled back writes durable rows. -/
theorem finished_handle_publishes :
    let columns (name : String) : InterfaceColumns :=
      { apiUrl := "", netId := "", netName := "", netCidr := "", deviceId := name, deviceName := name
        deviceEndpoint := "", deviceAddr := "", publicKey := name, listenPort := none, key := []
        deviceToken := [] }
    let write (h : Handle) (given : Option Int) (name : String) : HandleStep :=
      .execute h (.upsertInterface name) none [] fun t => t.upsertInterface given 0 (columns name)
    let begun : StoreState := (HandleStep.start true).next blank.state
    let other : StoreState := (write 1 none "a").next
      ((HandleStep.start true).next ((HandleStep.commit 0).next begun))
    let full : StoreState := (write 0 none "b").next ((write 0 (some maxInteger) "a").next begun)
    (0 ∈ other.finished ∧ 1 ∉ other.finished ∧ other.connection.durable.interfaces.length = 0 ∧
      ((HandleStep.commit 0).next other).connection.durable.interfaces.length = 1) ∧
    full.connection.working = none ∧ full.connection.durable.interfaces.length = 0 ∧
      ((write 0 none "c").next full).connection.durable.interfaces.length = 1 := by
  decide +kernel

end Site

end MeshAgent
