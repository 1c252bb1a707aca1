import MeshAgent.Proofs.Home.Reachable

/-!
# What a block with a callback does

A block gives its callback the newest entry of an interface and commits after it. The first commit or
rollback of the callback itself decides what becomes durable; nothing that the callback does later
changes that, and the commit of the block then has nothing left to commit. The same holds for a
transaction that the database has given up, but there what the callback does later is durable at once.
-/
namespace MeshAgent

/-- Whether a step decides what becomes of a transaction. -/
def HandleCall.decides {ι : Type} : HandleCall ι → Bool
  | commit => true
  | rollback => true
  | _ => false

namespace Callback

open Transaction

variable {α : Type}

/-- The steps that a callback takes, each with the progress that it is taken from. -/
def steps (store : Store) (now : Int) (before : Tables) :
    Callback α → Progress → List (HandleCall Interface × Progress)
  | done _, _ => []
  | fail _, _ => []
  | step c next, m =>
    (c, m) :: (next (c.effect store now before m).1).steps store now before
      (c.effect store now before m).2

/-- The first commit or rollback of a callback. -/
def decision (store : Store) (now : Int) (before : Tables) (b : Callback α) (m : Progress) :
    Option (HandleCall Interface × Progress) :=
  (b.steps store now before m).find? fun s => s.1.decides

end Callback

namespace Transaction

variable {α : Type} {before : Tables}

lemma Progress.apply_phase (c : Change α) (t : Tables) (e : Entropy) :
    (Progress.apply before c ⟨.underWay t, e⟩).2.phase.givenUp = true ∨
      ∃ t' e', (Progress.apply before c ⟨.underWay t, e⟩).2 = ⟨.underWay t', e'⟩ := by
  cases hrun : c.run t with
  | ok r =>
    rw [Progress.apply_of_ok rfl hrun]
    exact .inr ⟨_, _, rfl⟩
  | error f =>
    rw [Progress.apply_of_error rfl hrun, Phase.refuse]
    cases f.endsTransaction with
    | true => exact .inl rfl
    | false => exact .inr ⟨t, e, rfl⟩

lemma Progress.guarded_phase {β γ : Type} (check : Except Failure β) (draws : Nat)
    (c : β → Change γ) (t : Tables) (e : Entropy) :
    (Progress.guarded before check draws c ⟨.underWay t, e⟩).2.phase.givenUp = true ∨
      ∃ t' e', (Progress.guarded before check draws c ⟨.underWay t, e⟩).2 = ⟨.underWay t', e'⟩ := by
  cases check with
  | error f => exact .inr ⟨t, e, rfl⟩
  | ok b => exact Progress.apply_phase (c b) t _

lemma effect_of_not_decides (store : Store) (now : Int) {c : HandleCall Interface}
    (hc : c.decides = false) (t : Tables) (e : Entropy) :
    (c.effect store now before ⟨.underWay t, e⟩).2.phase.givenUp = true ∨
      ∃ t' e', (c.effect store now before ⟨.underWay t, e⟩).2 = ⟨.underWay t', e'⟩ := by
  cases c with
  | ensure i => exact Progress.guarded_phase _ _ _ _ _
  | append i operation state dirty message => exact Progress.guarded_phase _ _ _ _ _
  | last i => exact .inr ⟨_, _, rfl⟩
  | lastNamed device network => exact .inr ⟨_, _, rfl⟩
  | commit => simp [HandleCall.decides] at hc
  | rollback => simp [HandleCall.decides] at hc
  | isFinished => exact .inr ⟨_, _, rfl⟩

/-- The first commit or rollback decides the phase in which a callback leaves its transaction, unless
the database gives the transaction up. -/
lemma phase_of_decision (store : Store) (now : Int) (b : Callback α) (t : Tables) (e : Entropy)
    (hend : (b.course store now before ⟨.underWay t, e⟩).2.phase.givenUp = false) :
    match b.decision store now before ⟨.underWay t, e⟩ with
    | some (.commit, m) =>
      ∃ t', m.phase = .underWay t' ∧
        (b.course store now before ⟨.underWay t, e⟩).2.phase = .committed t'
    | some (_, _) => (b.course store now before ⟨.underWay t, e⟩).2.phase = .rolledBack
    | none => ∃ t', (b.course store now before ⟨.underWay t, e⟩).2.phase = .underWay t' := by
  induction b generalizing t e with
  | done a => exact ⟨t, rfl⟩
  | fail f => exact ⟨t, rfl⟩
  | step c next ih =>
    cases hc : c.decides with
    | false =>
      obtain hgiven | ⟨t', e', heffect⟩ := effect_of_not_decides store now hc t e
      · have hlater := givenUp_course store now before
          (next (c.effect store now before ⟨.underWay t, e⟩).1) hgiven
        rw [Callback.course, hlater] at hend
        cases hend
      have hdecision : (Callback.step c next).decision store now before ⟨.underWay t, e⟩ =
          (next (c.effect store now before ⟨.underWay t, e⟩).1).decision store now before
            ⟨.underWay t', e'⟩ := by
        simp only [Callback.decision, Callback.steps, List.find?_cons, hc, heffect]
      have hcourse : (Callback.step c next).course store now before ⟨.underWay t, e⟩ =
          (next (c.effect store now before ⟨.underWay t, e⟩).1).course store now before
            ⟨.underWay t', e'⟩ := by
        rw [Callback.course, heffect]
      rw [hcourse] at hend
      have hrest := ih (c.effect store now before ⟨.underWay t, e⟩).1 t' e' hend
      rw [hdecision, hcourse]
      exact hrest
    | true =>
      have hdecision : (Callback.step c next).decision store now before ⟨.underWay t, e⟩ =
          some (c, ⟨.underWay t, e⟩) := by
        simp only [Callback.decision, Callback.steps, List.find?_cons, hc]
      rw [hdecision]
      cases c with
      | commit =>
        refine ⟨t, rfl, ?_⟩
        rw [Callback.course]
        exact @course_of_over _ store now before _ ⟨.committed t, e⟩ rfl
      | rollback =>
        rw [Callback.course]
        exact @course_of_over _ store now before _ ⟨.rolledBack, e⟩ rfl
      | ensure i => simp [HandleCall.decides] at hc
      | append i operation state dirty message => simp [HandleCall.decides] at hc
      | last i => simp [HandleCall.decides] at hc
      | lastNamed device network => simp [HandleCall.decides] at hc
      | isFinished => simp [HandleCall.decides] at hc

end Transaction

namespace Site

open Transaction

variable {α : Type}

/-- The first commit or rollback of a callback in a block that begins now. -/
def decision (w : Site) (callback : Callback α) : Option (HandleCall Interface × Progress) :=
  callback.decision w.mounted.store w.host.now w.tables ⟨.underWay w.tables, w.host.entropy⟩

/-- The database gives up the transaction of a callback in a block that begins now. -/
def givesUp (w : Site) (callback : Callback α) : Bool := (w.course callback).2.phase.givenUp

/-- The first commit or rollback decides the phase that the block ends in. -/
lemma phase_of_course (w : Site) (callback : Callback α) (hend : w.givesUp callback = false) :
    match w.decision callback with
    | some (.commit, m) =>
      ∃ t, m.phase = .underWay t ∧ (w.course callback).2.phase = .committed t
    | some (_, _) => (w.course callback).2.phase = .rolledBack
    | none => ∃ t, (w.course callback).2.phase = .underWay t :=
  phase_of_decision w.mounted.store w.host.now callback w.tables w.host.entropy hend

/-- The block of an open store gives its callback the newest committed entry.

If the callback commits before it rolls back, the tables of its first commit are durable afterwards; if
it rolls back first, or ends with a failure before it has done either, the tables are as before;
otherwise they are what the callback has made of them. The block returns the callback's result exactly
in the last case: a failure of the callback is passed on, and after a commit or a rollback of the
callback the second commit fails. A closed store does not begin the block.

It is different if the database gives the transaction up: then the durable tables are what the callback
has made of those from before with its later steps, and the block does not return. -/
theorem withLog_ends_as_callback_decides {w : Site} (hw : Reachable w) {i : Interface}
    (hi : fitsColumn i.id = true) (callback : Option Entry → Callback α) :
    (w.IsOpen → ∃ last, w.tables.IsNewest i.id last ∧
      (w.givesUp (callback last) = false →
        (match w.decision (callback last), (w.course (callback last)).1 with
          | some (.commit, m), _ => m.phase = .underWay (w.withLog i callback).2.tables
          | some (_, _), _ => (w.withLog i callback).2.tables = w.tables
          | none, .error _ => (w.withLog i callback).2.tables = w.tables
          | none, .ok _ =>
            (w.course (callback last)).2.phase = .underWay (w.withLog i callback).2.tables) ∧
        (w.withLog i callback).1 =
          (match w.decision (callback last), (w.course (callback last)).1 with
          | _, .error f => .error f
          | none, .ok a => .ok a
          | some _, .ok _ =>
            .error (.agent { kind := .storage
                             reason := .text "cannot commit - no transaction is active"
                             activity := some .commitTransaction }))) ∧
      (w.givesUp (callback last) = true →
        (∃ finished, (w.course (callback last)).2.phase =
          .ended finished (w.withLog i callback).2.tables) ∧
        (w.withLog i callback).1 =
          (match (w.course (callback last)).1 with
          | .error f => .error f
          | .ok _ =>
            .error (.agent { kind := .storage
                             reason := .text "cannot commit - no transaction is active"
                             activity := some .commitTransaction }))) ∧
      (w.withLog i callback).2.mounted.connection.working = none) ∧
    (¬ w.IsOpen → (w.withLog i callback).1 = .error (.agent (closedError w.mounted.store)) ∧
      (w.withLog i callback).2.tables = w.tables) := by
  obtain ⟨hsteady, hsound⟩ := hw.spec
  refine ⟨fun hopen => ?_, fun hclosed => ?_⟩
  · obtain ⟨last, hlast, hnewest⟩ := hsound.newest_eq hi
    obtain ⟨s, hs, hset⟩ := withLog_spec hsteady hopen i callback
    have hblock : w.block i callback = Progress.close (w.course (callback last)) := by
      rw [block, hlast]
    rw [hblock] at hs hset
    have htables := tables_leave hsteady s
    rw [hset.durable] at htables
    refine ⟨last, hnewest, fun hend => ?_, fun hend => ?_, by rw [hs]; exact hset.idle.working⟩
    · have hphase := w.phase_of_course (callback last) hend
      rw [hs]
      generalize w.decision (callback last) = decision at hphase ⊢
      generalize w.course (callback last) = r at hphase htables ⊢
      obtain ⟨outcome, phase, e⟩ := r
      rcases decision with _ | ⟨c, m⟩
      · obtain ⟨t', rfl⟩ := hphase
        cases outcome with
        | error f => exact ⟨htables, rfl⟩
        | ok a => exact ⟨congrArg _ htables.symm, rfl⟩
      · by_cases hc : c = .commit
        · subst hc
          obtain ⟨t', hm, rfl⟩ := hphase
          cases outcome with
          | error f => exact ⟨hm.trans (congrArg _ htables.symm), rfl⟩
          | ok a => exact ⟨hm.trans (congrArg _ htables.symm), rfl⟩
        · cases c with
          | commit => exact absurd rfl hc
          | _ =>
            obtain rfl : phase = .rolledBack := hphase
            cases outcome with
            | error f => exact ⟨htables, rfl⟩
            | ok a => exact ⟨htables, rfl⟩
    · rw [givesUp] at hend
      rw [hs]
      generalize w.course (callback last) = r at hend htables ⊢
      obtain ⟨outcome, _ | ⟨finished, t⟩ | _ | _, e⟩ := r
      case ended =>
        cases outcome with
        | error f => exact ⟨⟨finished, congrArg _ htables.symm⟩, rfl⟩
        | ok a => exact ⟨⟨finished, congrArg _ htables.symm⟩, rfl⟩
      all_goals cases hend
  · rw [withLog_of_closed hclosed]
    exact ⟨rfl, tables_leave hsteady _⟩

/-- A callback that commits at once and returns a number: the result is lost. -/
theorem withLog_ends_as_callback_decides_of_commit :
    let addr : Address := .v4 ⟨0, Address.fullPrefix4⟩
    let i : Interface :=
      { apiUrl := "", network := ⟨"", "", addr⟩
        device := { id := "", name := "", addr, publicKey := [] }, key := [], deviceToken := [] }
    let callback : Option Entry → Callback Nat := fun _ => .step .commit fun _ => .done 7
    (blank.withLog i callback).2.tables = {} ∧
      (blank.withLog i callback).1 =
        .error (.agent { kind := .storage
                         reason := .text "cannot commit - no transaction is active"
                         activity := some .commitTransaction }) := by
  intro addr i callback
  obtain ⟨last, -, hkept, -⟩ :=
    (@withLog_ends_as_callback_decides _ blank reachable_blank i (by decide) callback).1 rfl
  obtain ⟨htables, hresult⟩ := hkept rfl
  have hphase : Phase.underWay {} = .underWay (blank.withLog i callback).2.tables := htables
  exact ⟨(Phase.underWay.inj hphase).symm, hresult⟩

/-- A callback that neither commits nor rolls back, and returns: an interface cannot be stored since
all ids are used up, and an entry is added after that. The block fails, and the entry is there. -/
theorem withLog_publishes_after_last_id :
    let key : Bytes := List.replicate Key.size 0
    let addr : Address := .v4 ⟨0, Address.fullPrefix4⟩
    let i : Interface :=
      { id := maxInteger, apiUrl := "", network := ⟨"", "", addr⟩
        device := { id := "", name := "", addr, publicKey := key }, key, deviceToken := [] }
    let j : Interface :=
      { i with id := 0, device := { i.device with id := "b", name := "b", publicKey := 1 :: key.tail } }
    let v : Site := (blank.call {} (.ensure i)).2
    let callback : Option Entry → Callback Unit := fun _ =>
      .step (.ensure j) fun _ => .step (.append i "apply" "applied" false "") fun _ => .done ()
    Reachable v ∧ v.IsOpen ∧ v.tables.log = [] ∧ v.decision (callback none) = none ∧
      (v.course (callback none)).1 = .ok () ∧
      (v.withLog i callback).1 =
        .error (.agent { kind := .storage
                         reason := .text "cannot commit - no transaction is active"
                         activity := some .commitTransaction }) ∧
      (v.withLog i callback).2.tables.log.length = 1 := by
  intro key addr i j v callback
  have hopen : v.mounted.connection.closed = false := by decide +kernel
  refine ⟨reachable_blank.call {} _, hopen, ?_, Option.isNone_iff_eq_none.mp ?_, ?_, ?_, ?_⟩
  all_goals decide +kernel

end Site

end MeshAgent
