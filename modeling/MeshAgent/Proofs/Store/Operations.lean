import MeshAgent.Proofs.Store.Reads

/-!
# Operations

Every operation that has a transaction of its own is one change of the durable tables: it ends as
the change does, and a change that fails leaves the tables as they were. What an operation has
written before it fails is in the working copy only, which is dropped.
-/
namespace MeshAgent

namespace Change

variable {α β : Type}

lemma outcome_bind_ok {c : Change α} {d : α → Change β} {t : Tables} {a : α}
    (h : c.outcome t = .ok a) : (c >>= d).outcome t = (d a).outcome (c.after t) := by
  rw [outcome, StateT.run_bind, outcome_eq_ok h]
  rfl

lemma outcome_bind_error {c : Change α} {d : α → Change β} {t : Tables} {f : Failure}
    (h : c.outcome t = .error f) : (c >>= d).outcome t = .error f := by
  rw [outcome, StateT.run_bind, outcome_eq_error h]
  rfl

lemma after_bind_ok {c : Change α} {d : α → Change β} {t : Tables} {a : α} {b : β}
    (h : c.outcome t = .ok a) (hd : (d a).outcome (c.after t) = .ok b) :
    (c >>= d).after t = (d a).after (c.after t) := by
  have hrun : (c >>= d).run t = .ok (b, (d a).after (c.after t)) := by
    rw [StateT.run_bind, outcome_eq_ok h]
    exact outcome_eq_ok hd
  exact after_of_ok hrun

/-- What a change that is made of two parts has done. -/
lemma run_bind_eq_ok {c : Change α} {d : α → Change β} {t t' : Tables} {b : β}
    (h : (c >>= d).run t = .ok (b, t')) :
    ∃ a t₁, c.run t = .ok (a, t₁) ∧ (d a).run t₁ = .ok (b, t') := by
  rw [StateT.run_bind] at h
  cases hc : c.run t with
  | error f => simp [hc, bind, Except.bind] at h
  | ok r =>
    obtain ⟨a, t₁⟩ := r
    rw [hc] at h
    exact ⟨a, t₁, rfl, h⟩

lemma run_look_eq_ok {f : Tables → Except Failure α} {t t' : Tables} {a : α}
    (h : (look f).run t = .ok (a, t')) : f t = .ok a ∧ t' = t := by
  have hout := outcome_of_ok h
  have hafter := after_of_ok h
  rw [outcome_look] at hout
  rw [after_look] at hafter
  exact ⟨hout, hafter.symm⟩

lemma run_guarded_eq_ok {check : Except Failure β} {c : β → Change α} {t t' : Tables} {a : α}
    (h : (guarded check c).run t = .ok (a, t')) :
    ∃ b, check = .ok b ∧ (c b).run t = .ok (a, t') := by
  cases check with
  | error f =>
    rw [run_guarded_error] at h
    simp at h
  | ok b => exact ⟨b, rfl, h⟩

/-- A change that may depend on the newest entry of an interface, which has to be readable. -/
def logged (i : Interface) (c : Option Entry → Change α) : Change α := do
  let last ← look fun t => t.newest i
  c last

/-- Writes an interface whose keys are in order. -/
def store (store : Store) (now : Int) (e : Entropy) (i : Interface) : Change Int :=
  guarded (orFail (i.checkKeys (.upsertInterface i.label))) fun _ => ensure store now e i

/-- Adds an entry if the clock shows a date. -/
def enter (now : Int) (i : Interface) (operation : Operation) (state : State) (dirty : Bool)
    (message : String) : Change Entry :=
  guarded (History.checkTime (now.fdiv 1000000)) fun _ => append now i operation state dirty message

/-- Adds an entry whose operation and state are given as text. -/
def enterNamed (now : Int) (i : Interface) (operation state : String) (dirty : Bool)
    (message : String) : Change Entry :=
  guarded (History.checkNamed now operation state) fun names =>
    append now i names.1 names.2 dirty message

/-- Writes an interface and the entry that says so. -/
def record (s : Store) (now : Int) (e : Entropy) (i : Interface) (operation : Operation)
    (state : State) (message : String) : Change Interface := do
  let id ← store s now e i
  let _ ← enter now { i with id } operation state true message
  return { i with id }

end Change

namespace Transaction

variable {α β : Type} {s₀ : StoreState} {h : Handle} {t : Tables} {e : Entropy}

/-- `x` ends as the change `c` does. If it returns it has carried the change out in the working copy,
and if it fails the durable tables are as they were when the transaction began. -/
def Yields (s₀ : StoreState) (h : Handle) (x : StoreM α) (t : Tables) (e : Entropy)
    (c : Change α) : Prop :=
  ∃ m, Leads s₀ h x ⟨.underWay t, e⟩ (c.outcome t, m) ∧
    (∀ a, c.outcome t = .ok a → m.phase = .underWay (c.after t)) ∧
    ∀ f, c.outcome t = .error f → m.phase.durable s₀.connection.durable = s₀.connection.durable

lemma Yields.guarded {x : StoreM α} {check : Except Failure β} {draws : Nat} {c : β → Change α}
    (hx : Leads s₀ h x ⟨.underWay t, e⟩
      (Progress.guarded s₀.connection.durable check draws c ⟨.underWay t, e⟩)) :
    Yields s₀ h x t e (Change.guarded check c) := by
  cases check with
  | error f =>
    have hrun := Change.run_guarded_error f c t
    have hout := Change.outcome_of_error hrun
    rw [Yields, hout]
    exact ⟨_, hx, (fun _ h => by cases h), fun _ _ => rfl⟩
  | ok b =>
    cases hrun : (c b).run t with
    | error f =>
      have hguarded : (Change.guarded (.ok b) c).run t = .error f := hrun
      rw [Progress.guarded, Progress.apply_of_error rfl hrun] at hx
      rw [Yields, Change.outcome_of_error hguarded]
      refine ⟨_, hx, (fun _ h => by cases h), fun _ _ => ?_⟩
      simp only [Phase.refuse]
      split <;> rfl
    | ok r =>
      obtain ⟨a, t'⟩ := r
      have hguarded : (Change.guarded (.ok b) c).run t = .ok (a, t') := hrun
      rw [Progress.guarded, Progress.apply_of_ok rfl hrun] at hx
      rw [Yields, Change.outcome_of_ok hguarded, Change.after_of_ok hguarded]
      exact ⟨_, hx, fun _ _ => rfl, fun _ h => by cases h⟩

lemma Yields.pure (a : α) : Yields s₀ h (Pure.pure a) t e (Pure.pure a) :=
  ⟨⟨.underWay t, e⟩, Leads.pure a, fun _ _ => rfl, fun _ _ => rfl⟩

lemma Yields.bind {x : StoreM α} {f : α → StoreM β} {c : Change α} {d : α → Change β}
    (hx : Yields s₀ h x t e c) (hf : ∀ a e', Yields s₀ h (f a) (c.after t) e' (d a)) :
    Yields s₀ h (x >>= f) t e (c >>= d) := by
  obtain ⟨⟨phase, e₁⟩, hlead, hok, herror⟩ := hx
  cases hc : c.outcome t with
  | error g =>
    rw [hc] at hlead
    rw [Yields, Change.outcome_bind_error hc]
    exact ⟨_, hlead.bind_error, nofun, fun _ _ => herror g hc⟩
  | ok a =>
    obtain rfl := hok a hc
    rw [hc] at hlead
    obtain ⟨m₂, hlead₂, hok₂, herror₂⟩ := hf a e₁
    refine ⟨m₂, ?_, ?_, ?_⟩
    · rw [Change.outcome_bind_ok hc]
      exact hlead.bind hlead₂
    · intro b hb
      rw [Change.outcome_bind_ok hc] at hb
      rw [Change.after_bind_ok hc hb]
      exact hok₂ b hb
    · intro g hg
      rw [Change.outcome_bind_ok hc] at hg
      exact herror₂ g hg

lemma yields_record (hk : s₀.store.key.length = SecretBox.keySize) (i : Interface)
    (operation : Operation) (state : State) (message : String) :
    Yields s₀ h
      (do
        let stored := { i with id := ← Store.ensureInterfaceIn h i }
        let _ ← History.append h stored operation state true message
        return stored)
      t e (Change.record s₀.store s₀.now e i operation state message) := by
  refine (Yields.guarded (leads_ensure hk i _)).bind fun id e' => ?_
  exact (Yields.guarded (leads_append _ _ _ _ _ _)).bind fun _ _ => Yields.pure _

/-- Ends a block that commits if its body returns. -/
def Progress.close (r : Except Failure α × Progress) : Except Failure α × Progress :=
  match r.1 with
  | .ok a => (r.2.commit.1.map fun _ => a, r.2.commit.2)
  | .error f => (.error f, r.2)

lemma Leads.close {x : StoreM α} {m : Progress} {r : Except Failure α × Progress}
    (hx : Leads s₀ h x m r) :
    Leads s₀ h (x >>= fun a => do commit h; return a) m (Progress.close r) := by
  obtain ⟨_ | a, m'⟩ := r
  · exact hx.bind_error
  · exact hx.bind ((leads_commit m').map fun _ => a)

/-- A block with the newest entry at hand. -/
lemma exec_logged {i : Interface} {body : Handle → Option Entry → StoreM α} {s : StoreState}
    {last : Option Entry} {r : Except Failure α × Progress} (hs : s.Idle)
    (hc : s.connection.closed = false) (hlast : s.connection.durable.newest i = .ok last)
    (hbody : Leads s s.begun (body s.begun last) ⟨.underWay s.connection.durable, s.entropy⟩ r) :
    ∃ s', exec (Store.logged i body) s = ((Progress.close r).1, s') ∧
      Settled s ((Progress.close r).2.phase.durable s.connection.durable)
        (Progress.close r).2.entropy s' := by
  have hfind := @finds_last s s.begun s.connection.durable s.entropy i
  rw [hlast] at hfind
  exact exec_scope_id true hs hc (Leads.bind hfind hbody.close)

/-- A block whose newest entry cannot be read ends before its body begins. -/
lemma exec_logged_of_error {i : Interface} {body : Handle → Option Entry → StoreM α} {s : StoreState}
    {f : Failure} (hs : s.Idle) (hc : s.connection.closed = false)
    (hlast : s.connection.durable.newest i = .error f) :
    ∃ s', exec (Store.logged i body) s = (.error f, s') ∧
      Settled s s.connection.durable s.entropy s' := by
  have hfind := @finds_last s s.begun s.connection.durable s.entropy i
  rw [hlast] at hfind
  exact exec_scope_id (r := (.error f, ⟨.underWay s.connection.durable, s.entropy⟩)) true hs hc
    hfind.bind_error

/-- A block whose body carries out a change is itself a change. -/
lemma exec_logged_change {i : Interface} {body : Handle → Option Entry → StoreM α}
    {c : Option Entry → Change α} {s : StoreState} (hs : s.Idle)
    (hc : s.connection.closed = false)
    (hbody : ∀ last,
      Yields s s.begun (body s.begun last) s.connection.durable s.entropy (c last)) :
    ∃ e' s', exec (Store.logged i body) s =
        ((Change.logged i c).outcome s.connection.durable, s') ∧
      Settled s ((Change.logged i c).after s.connection.durable) e' s' := by
  have hlook := Change.outcome_look (fun t => t.newest i) s.connection.durable
  cases hlast : s.connection.durable.newest i with
  | error f =>
    rw [hlast] at hlook
    have hout : (Change.logged i c).outcome s.connection.durable = .error f :=
      Change.outcome_bind_error hlook
    rw [hout, Change.after_of_outcome_error hout]
    exact ⟨s.entropy, exec_logged_of_error hs hc hlast⟩
  | ok last =>
    rw [hlast] at hlook
    have hout : (Change.logged i c).outcome s.connection.durable =
        (c last).outcome s.connection.durable := by
      rw [Change.logged, Change.outcome_bind_ok hlook, Change.after_look]
    obtain ⟨⟨phase, e'⟩, hlead, hok, herror⟩ := hbody last
    obtain ⟨s', hs', hset⟩ := exec_logged hs hc hlast hlead
    rw [hout]
    cases hend : (c last).outcome s.connection.durable with
    | error f =>
      rw [hend] at hs' hset hout
      rw [Change.after_of_outcome_error hout]
      rw [Progress.close, herror f hend] at hset
      exact ⟨_, s', hs', hset⟩
    | ok a =>
      rw [hend] at hs' hset
      obtain rfl := hok a hend
      have hthen : (c last).outcome
          ((Change.look fun t => t.newest i).after s.connection.durable) = .ok a := by
        rw [Change.after_look, hend]
      rw [Change.logged, Change.after_bind_ok hlook hthen, Change.after_look]
      exact ⟨_, s', hs', hset⟩

/-- A read ends with what it finds, and leaves nothing behind. -/
lemma exec_reading {body : Handle → StoreM α} {s : StoreState} {r : Except Failure α}
    (hs : s.Idle) (hc : s.connection.closed = false)
    (hbody : Finds s s.begun s.connection.durable s.entropy (body s.begun) r) :
    ∃ s', exec (Store.reading body) s = (r, s') ∧
      Settled s s.connection.durable s.entropy s' :=
  exec_scope_id false hs hc hbody

end Transaction

end MeshAgent
