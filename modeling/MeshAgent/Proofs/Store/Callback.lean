import MeshAgent.Proofs.Store.Reads

/-!
# Callbacks

A callback works on the handle of a transaction, step by step; what it does next may depend on how
its steps ended, so a failing step can be ignored or end it. Its course is described on progress
alone: steps change the working copy until one of them commits or rolls back, and change nothing
after that. The block that runs it commits if it returns, and otherwise drops what it has done.
-/
namespace MeshAgent

namespace HandleCall

open Transaction

/-- What a step does to a transaction, which found the durable tables to be `before`, and how it
ends. -/
def effect (store : Store) (now : Int) (before : Tables) :
    HandleCall Interface → Progress → Except Failure Answer × Progress
  | ensure i, m =>
    m.guarded before (orFail (i.checkKeys (.upsertInterface i.label))) 2 fun _ =>
      Answer.id <$> Change.ensure store now m.entropy i
  | append i operation state dirty message, m =>
    m.guarded before (History.checkNamed now operation state) 0 fun names =>
      (fun e => Answer.entry (some e)) <$> Change.append now i names.1 names.2 dirty message
  | last i, m => ((m.phase.look fun t => t.newest i).map .entry, m)
  | lastNamed device network, m =>
    ((m.phase.look fun t => t.newestNamed device network).map .entry, m)
  | commit, m => (m.commit.1.map fun _ => .nothing, m.commit.2)
  | rollback, m => (m.rollback.1.map fun _ => .nothing, m.rollback.2)
  | isFinished, m => (.ok (.flag m.phase.isOver), m)

end HandleCall

namespace Transaction

variable {α β : Type} {s₀ : StoreState} {h : Handle}

lemma Phase.apply_map (g : α → β) (before : Tables) (c : Change α) (p : Phase) :
    p.apply before (g <$> c) = ((p.apply before c).1.map g, (p.apply before c).2) := by
  cases hp : p.tables? with
  | none =>
    rw [Phase.apply_of_over hp, Phase.apply_of_over hp]
    rfl
  | some t =>
    cases hc : c.run t with
    | error f =>
      have hmap : (g <$> c).run t = .error f := by rw [Change.run_map, hc]; rfl
      rw [Phase.apply_of_error hp hc, Phase.apply_of_error hp hmap]
      rfl
    | ok r =>
      have hmap : (g <$> c).run t = .ok (g r.1, r.2) := by rw [Change.run_map, hc]; rfl
      rw [Phase.apply_of_ok hp hc, Phase.apply_of_ok hp hmap]
      rfl

lemma Progress.apply_map (g : α → β) (before : Tables) (c : Change α) (m : Progress) :
    m.apply before (g <$> c) = ((m.apply before c).1.map g, (m.apply before c).2) := by
  simp only [Progress.apply, Phase.apply_map]

lemma Progress.guarded_map {γ : Type} (g : α → β) (before : Tables) (check : Except Failure γ)
    (draws : Nat) (c : γ → Change α) (m : Progress) :
    (m.guarded before check draws fun b => g <$> c b) =
      ((m.guarded before check draws c).1.map g, (m.guarded before check draws c).2) := by
  cases check with
  | error f => rfl
  | ok b => exact Progress.apply_map g before (c b) _

/-- A step on a handle does what its effect says. -/
theorem leads_step (hk : s₀.store.key.length = SecretBox.keySize) (c : HandleCall Interface)
    (m : Progress) :
    Leads s₀ h (c.run h) m (c.effect s₀.store s₀.now s₀.connection.durable m) := by
  cases c with
  | ensure i =>
    rw [HandleCall.effect, Progress.guarded_map]
    exact (leads_ensure hk i m).map Answer.id
  | append i operation state dirty message =>
    rw [HandleCall.effect, Progress.guarded_map]
    exact (leads_appendNamed i operation state dirty message m).map fun e => Answer.entry (some e)
  | last i => exact (leads_last i m).map Answer.entry
  | lastNamed device network => exact (leads_lastNamed device network m).map Answer.entry
  | commit => exact (leads_commit m).map fun _ => Answer.nothing
  | rollback => exact (leads_rollback m).map fun _ => Answer.nothing
  | isFinished => exact (leads_isFinished m).map Answer.flag

end Transaction

/-- A computation on the handle of a transaction that ends after finitely many steps. -/
inductive Callback (α : Type)
  | done (result : α)
  | fail (failure : Failure)
  /-- Goes on with what the outcome of a step calls for. -/
  | step (call : HandleCall Interface) (next : Except Failure Answer → Callback α)

namespace Callback

open Transaction

variable {α : Type}

/-- Runs a callback on a transaction. -/
def run (h : Handle) : Callback α → StoreM α
  | done a => pure a
  | fail f => throw f
  | step c next => do (next (← StoreM.attempt (c.run h))).run h

/-- How a callback ends, and what has become of its transaction by then. -/
def course (store : Store) (now : Int) (before : Tables) :
    Callback α → Progress → Except Failure α × Progress
  | done a, m => (.ok a, m)
  | fail f, m => (.error f, m)
  | step c next, m =>
    (next (c.effect store now before m).1).course store now before (c.effect store now before m).2

end Callback

namespace Transaction

variable {α : Type} {s₀ : StoreState} {h : Handle}

lemma Leads.attempt {x : StoreM α} {m : Progress} {r : Except Failure α × Progress}
    (hx : Leads s₀ h x m r) : Leads s₀ h (StoreM.attempt x) m (.ok r.1, r.2) := by
  intro s hs
  obtain ⟨t, ht, hat⟩ := hx s hs
  exact ⟨t, by rw [StoreM.exec_attempt, ht], hat⟩

theorem leads_callback (hk : s₀.store.key.length = SecretBox.keySize) (b : Callback α)
    (m : Progress) :
    Leads s₀ h (b.run h) m (b.course s₀.store s₀.now s₀.connection.durable m) := by
  induction b generalizing m with
  | done a => exact Leads.pure a
  | fail f => exact Leads.throw f
  | step c next ih => exact (leads_step hk c m).attempt.bind (ih _ _)

/-- Once a transaction is over no step changes what has become of it. -/
lemma effect_of_over (store : Store) (now : Int) (before : Tables) (c : HandleCall Interface)
    {m : Progress} (hm : m.phase.isOver = true) : (c.effect store now before m).2.phase = m.phase := by
  have happly : ∀ {β : Type} (c : Change β), (m.phase.apply before c).2 = m.phase := fun c => by
    rw [Phase.apply_of_over (Phase.isOver_iff.mp hm)]
  cases c with
  | ensure i =>
    simp only [HandleCall.effect, Progress.guarded]
    split
    · rfl
    · exact happly _
  | append i operation state dirty message =>
    simp only [HandleCall.effect, Progress.guarded]
    split
    · rfl
    · exact happly _
  | last i => rfl
  | lastNamed device network => rfl
  | commit =>
    obtain ⟨_ | _ | _ | _, e⟩ := m <;> first | rfl | exact nomatch hm
  | rollback =>
    obtain ⟨_ | ⟨_ | _, _⟩ | _ | _, e⟩ := m <;> first | rfl | exact nomatch hm
  | isFinished => rfl

theorem course_of_over (store : Store) (now : Int) (before : Tables) (b : Callback α)
    {m : Progress} (hm : m.phase.isOver = true) :
    (b.course store now before m).2.phase = m.phase := by
  induction b generalizing m with
  | done a => rfl
  | fail f => rfl
  | step c next ih =>
    have hstep := effect_of_over store now before c hm
    rw [Callback.course, ih _ (by rw [hstep]; exact hm), hstep]

/-- What the database has once given up stays so. -/
lemma givenUp_apply (before : Tables) (c : Change α) {m : Progress}
    (hm : m.phase.givenUp = true) : (m.apply before c).2.phase.givenUp = true := by
  obtain ⟨_ | ⟨finished, t⟩ | _ | _, e⟩ := m
  case ended =>
    cases hp : (Phase.ended finished t).tables? with
    | none =>
      rw [Progress.apply_of_over hp]
      rfl
    | some t₁ =>
      cases hrun : c.run t₁ with
      | error f =>
        rw [Progress.apply_of_error hp hrun]
        rfl
      | ok r =>
        rw [Progress.apply_of_ok hp hrun]
        cases finished <;> rfl
  all_goals exact nomatch hm

lemma givenUp_effect (store : Store) (now : Int) (before : Tables) (c : HandleCall Interface)
    {m : Progress} (hm : m.phase.givenUp = true) :
    (c.effect store now before m).2.phase.givenUp = true := by
  cases c with
  | ensure i =>
    simp only [HandleCall.effect, Progress.guarded]
    split
    · exact hm
    · exact givenUp_apply before _ (m := { m with entropy := m.entropy.skip 2 }) hm
  | append i operation state dirty message =>
    simp only [HandleCall.effect, Progress.guarded]
    split
    · exact hm
    · exact givenUp_apply before _ (m := { m with entropy := m.entropy.skip 0 }) hm
  | last i => exact hm
  | lastNamed device network => exact hm
  | commit => obtain ⟨_ | _ | _ | _, e⟩ := m <;> first | rfl | exact nomatch hm
  | rollback => obtain ⟨_ | _ | _ | _, e⟩ := m <;> first | rfl | exact nomatch hm
  | isFinished => exact hm

lemma givenUp_course (store : Store) (now : Int) (before : Tables) (b : Callback α)
    {m : Progress} (hm : m.phase.givenUp = true) :
    (b.course store now before m).2.phase.givenUp = true := by
  induction b generalizing m with
  | done a => exact hm
  | fail f => exact hm
  | step c next ih => exact ih _ (givenUp_effect store now before c hm)

end Transaction

end MeshAgent
