import Mathlib.Data.List.Forall2
import MeshAgent.Proofs.Store.Progress

/-!
# Two runs side by side

Two computations are parallel if from related states they end alike, with the same failure or with
related results, and leave related states. Computations that are made of parallel ones are parallel,
one lemma for each way of putting them together.
-/
namespace MeshAgent

section

variable {ε α β : Type} {R : α → α → Prop} {Q : β → β → Prop}

/-- Both results are there and related, or neither is there, for the same reason. -/
inductive Ends (R : α → α → Prop) : Except ε α → Except ε α → Prop
  | ok {a a' : α} : R a a' → Ends R (.ok a) (.ok a')
  | error (e : ε) : Ends R (.error e) (.error e)

lemma ends_refl (hR : ∀ a, R a a) (x : Except ε α) : Ends R x x := by
  cases x with
  | ok a => exact .ok (hR a)
  | error e => exact .error e

lemma ends_same (x : Except ε α) : Ends Eq x x := ends_refl (fun _ => rfl) x

lemma ends_eq_iff {x x' : Except ε α} : Ends Eq x x' ↔ x = x' := by
  constructor
  · rintro (⟨rfl⟩ | e)
    · rfl
    · rfl
  · rintro rfl
    exact ends_same x

lemma Ends.bind {x x' : Except ε α} {f f' : α → Except ε β} (hx : Ends R x x')
    (hf : ∀ a a', R a a' → Ends Q (f a) (f' a')) : Ends Q (x >>= f) (x' >>= f') := by
  cases hx with
  | ok h => exact hf _ _ h
  | error e => exact .error e

lemma Ends.map {x x' : Except ε α} {g g' : α → β} (hx : Ends R x x')
    (hg : ∀ a a', R a a' → Q (g a) (g' a')) : Ends Q (x.map g) (x'.map g') := by
  cases hx with
  | ok h => exact .ok (hg _ _ h)
  | error e => exact .error e

lemma ends_orFail {x x' : Except AgentError α} (h : Ends R x x') :
    Ends R (orFail x) (orFail x') := by
  cases h with
  | ok h => exact .ok h
  | error e => exact .error (Failure.agent e)

end

/-- From related states the computations end alike and leave related states. -/
def Parallel {σ α : Type} (S : σ → σ → Prop) (R : α → α → Prop)
    (x x' : ExceptT Failure (StateM σ) α) : Prop :=
  ∀ s s', S s s' → Ends R (exec x s).1 (exec x' s').1 ∧ S (exec x s).2 (exec x' s').2

section

variable {σ α β : Type} {S : σ → σ → Prop} {R : α → α → Prop} {Q : β → β → Prop}

lemma Parallel.pure {a a' : α} (h : R a a') : Parallel S R (Pure.pure a) (Pure.pure a') :=
  fun _ _ hs => ⟨.ok h, hs⟩

lemma Parallel.throw (f : Failure) :
    Parallel S R (MonadExcept.throw f : ExceptT Failure (StateM σ) α) (MonadExcept.throw f) :=
  fun _ _ hs => ⟨.error f, hs⟩

lemma Parallel.bind {x x' : ExceptT Failure (StateM σ) α}
    {f f' : α → ExceptT Failure (StateM σ) β} (hx : Parallel S R x x')
    (hf : ∀ a a', R a a' → Parallel S Q (f a) (f' a')) : Parallel S Q (x >>= f) (x' >>= f') := by
  intro s s' hs
  have hstep := hx s s' hs
  rw [exec_bind, exec_bind]
  rcases hrun : exec x s with ⟨outcome, t⟩
  rcases hrun' : exec x' s' with ⟨outcome', t'⟩
  rw [hrun, hrun'] at hstep
  obtain ⟨hends, ht⟩ := hstep
  cases hends with
  | ok h => exact hf _ _ h t t' ht
  | error e => exact ⟨.error e, ht⟩

/-- Nothing is done after a failure. -/
lemma Parallel.throw_bind (e : Failure) {f f' : α → ExceptT Failure (StateM σ) β} :
    Parallel S Q (MonadExcept.throw e >>= f) (MonadExcept.throw e >>= f') :=
  -- There is no result that the rest could go on with.
  (@Parallel.throw σ α S (fun _ _ => False) e).bind fun _ _ h => h.elim

lemma Parallel.ite {c : Prop} [Decidable c] {x x' y y' : ExceptT Failure (StateM σ) α}
    (hx : Parallel S R x x') (hy : Parallel S R y y') :
    Parallel S R (if c then x else y) (if c then x' else y') := by
  split
  · exact hx
  · exact hy

lemma Parallel.map {x x' : ExceptT Failure (StateM σ) α} {g g' : α → β} (hx : Parallel S R x x')
    (hg : ∀ a a', R a a' → Q (g a) (g' a')) :
    Parallel S Q (x >>= fun a => Pure.pure (g a)) (x' >>= fun a => Pure.pure (g' a)) :=
  hx.bind fun a a' h => Parallel.pure (hg a a' h)

lemma Parallel.get {f f' : σ → ExceptT Failure (StateM σ) β}
    (hf : ∀ s s', S s s' → Parallel S Q (f s) (f' s')) :
    Parallel S Q (MonadState.get >>= f) (MonadState.get >>= f') := by
  intro s s' hs
  rw [exec_bind, exec_bind]
  exact hf s s' hs s s' hs

lemma Parallel.set {t t' : σ} (h : S t t') :
    Parallel S Eq (MonadStateOf.set t : ExceptT Failure (StateM σ) PUnit) (MonadStateOf.set t') :=
  fun _ _ _ => ⟨.ok rfl, h⟩

lemma Parallel.modify {g g' : σ → σ} (hg : ∀ s s', S s s' → S (g s) (g' s')) :
    Parallel S Eq (modify g : ExceptT Failure (StateM σ) PUnit) (modify g') :=
  fun s s' hs => ⟨.ok rfl, hg s s' hs⟩

lemma Parallel.modifyGet {g g' : σ → α × σ}
    (hg : ∀ s s', S s s' → R (g s).1 (g' s').1 ∧ S (g s).2 (g' s').2) :
    Parallel S R (modifyGet g : ExceptT Failure (StateM σ) α) (modifyGet g') :=
  fun s s' hs => ⟨.ok (hg s s' hs).1, (hg s s' hs).2⟩

lemma Parallel.handle {x x' : ExceptT Failure (StateM σ) α}
    {f f' : Failure → ExceptT Failure (StateM σ) α} (hx : Parallel S R x x')
    (hf : ∀ e, Parallel S R (f e) (f' e)) :
    Parallel S R (tryCatch x f) (tryCatch x' f') := by
  intro s s' hs
  have hstep := hx s s' hs
  rw [exec_tryCatch, exec_tryCatch]
  rcases hrun : exec x s with ⟨outcome, t⟩
  rcases hrun' : exec x' s' with ⟨outcome', t'⟩
  rw [hrun, hrun'] at hstep
  obtain ⟨hends, ht⟩ := hstep
  cases hends with
  | ok h => exact ⟨.ok h, ht⟩
  | error e => exact hf e t t' ht

/-- A caught failure is an outcome like others. -/
lemma Parallel.caught {x x' : ExceptT Failure (StateM σ) α} (hx : Parallel S R x x') :
    Parallel S (Ends R) (tryCatch (Except.ok <$> x) fun e => Pure.pure (.error e))
      (tryCatch (Except.ok <$> x') fun e => Pure.pure (.error e)) := by
  intro s s' hs
  rw [exec_caught, exec_caught]
  exact ⟨.ok (hx s s' hs).1, (hx s s' hs).2⟩

lemma Parallel.mapM {f f' : α → ExceptT Failure (StateM σ) β}
    (hf : ∀ a, Parallel S Q (f a) (f' a)) (as : List α) :
    Parallel S (List.Forall₂ Q) (as.mapM f) (as.mapM f') := by
  induction as with
  | nil => exact Parallel.pure .nil
  | cons a as ih =>
    rw [List.mapM_cons, List.mapM_cons]
    exact (hf a).bind fun b b' hb => ih.map fun bs bs' hbs => .cons hb hbs

lemma Parallel.forM {f f' : α → ExceptT Failure (StateM σ) PUnit}
    (hf : ∀ a, Parallel S Eq (f a) (f' a)) (as : List α) :
    Parallel S Eq (as.forM f) (as.forM f') := by
  induction as with
  | nil => exact Parallel.pure rfl
  | cons a as ih => exact (hf a).bind fun _ _ _ => ih

end

end MeshAgent
