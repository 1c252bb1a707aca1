import MeshAgent.Proofs.Store.Operations

/-!
# Calls

What a call makes of the durable tables, how it ends, and what becomes of the interface that it was
given. The interface is assigned to before the transaction commits, so that a failure has to take the
assignment back.
-/
namespace MeshAgent

namespace Call

/-- What a call makes of the tables, and its answer. The random source stands where it stands when
the call begins. -/
def change (config : Config) (store : Store) (now : Int) (e : Entropy) :
    Call Interface → Change Answer
  | ensure i => Answer.id <$> Change.store store now e i
  | interface id => Answer.interface <$> Change.look fun t => t.load store.key id
  | interfaceByDevice device network =>
    Answer.interface <$> Change.look fun t => t.loadNamed store.key device network
  | interfaces => Answer.listed <$> Change.look fun t => t.listed store.key
  | lastLogByDevice device network =>
    (fun x => Answer.entry (some x)) <$> Change.look fun t => t.entryNamed device network
  | join apiUrl privateKey listenPort response message =>
    let i := Agent.joined config apiUrl privateKey listenPort response
    let text := Agent.messageOr message ("joined network " ++ Text.quote i.network.name)
    Answer.interface <$> Change.guarded (orFail (response.checkKeys .recordJoin)) fun _ =>
      Change.logged i fun _ => Change.record store now e i .join .joined text
  | refresh i response message =>
    let i := Agent.refreshed i response
    let text := Agent.messageOr message ("refreshed " ++ shown i.peers.length ++ " peers")
    Answer.interface <$> Change.guarded (orFail (response.checkKeys .recordRefresh)) fun _ =>
      Change.logged i fun _ => Change.record store now e i .refresh .refreshed text
  | applied i message =>
    (fun x => Answer.entry (some x)) <$> Change.logged i fun _ =>
      Change.enter now i .apply .applied false message
  | failed i operation message =>
    (fun x => Answer.entry (some x)) <$> Change.logged i fun _ =>
      Change.enterNamed now i operation State.failed.name true message
  | needsApply i => Answer.flag <$> Change.logged i fun last => return last.all (·.dirty)

/-- What has become of the interface that a call was given. -/
def heldAfter : Call Interface → Except Failure Answer → Option Interface
  | ensure i, .ok (.id id) => some { i with id }
  | c, _ => c.iface?

end Call

/-- An interface that its caller holds, when a write of it has ended. -/
def Interface.given (i : Interface) : Except Failure Int → Interface
  | .ok id => { i with id }
  | .error _ => i

namespace HeldM

variable {α : Type}

lemma exec_onStore (x : StoreM α) (v : Held) :
    exec (onStore x) v =
      ((exec x v.toStoreState).1, { v with toStoreState := (exec x v.toStoreState).2 }) := by
  have hx : x.run v.toStoreState = exec x v.toStoreState := rfl
  simp only [onStore, exec_bind, exec_get, hx]
  rcases exec x v.toStoreState with ⟨_ | _, s⟩ <;> rfl

lemma exec_holding (i : Interface) (x : HeldM α) (s : StoreState) :
    exec (holding i x) s =
      (.ok ((exec x ⟨s, i⟩).1, (exec x ⟨s, i⟩).2.held), (exec x ⟨s, i⟩).2.toStoreState) := by
  have hx : x.run ⟨s, i⟩ = exec x ⟨s, i⟩ := rfl
  simp only [holding, exec_bind, exec_get, hx]
  rfl

end HeldM

namespace Transaction

variable {α β : Type}

lemma exec_onStore_leads {s₀ : StoreState} {h : Handle} {x : StoreM α} {m : Progress}
    {r : Except Failure α × Progress} (hx : Leads s₀ h x m r) {v : Held}
    (hv : At s₀ h m v.toStoreState) :
    ∃ s', exec (HeldM.onStore x) v = (r.1, ⟨s', v.held⟩) ∧ At s₀ h r.2 s' := by
  obtain ⟨s', hs', hat⟩ := hx v.toStoreState hv
  exact ⟨s', by rw [HeldM.exec_onStore, hs'], hat⟩

/-- The interface gets its id as soon as it is in the working copy. -/
lemma exec_ensureHeldIn {s₀ : StoreState} {h : Handle} {r : Except Failure Int × Progress}
    {m : Progress} {v : Held} (hx : Leads s₀ h (Store.ensureInterfaceIn h v.held) m r)
    (hv : At s₀ h m v.toStoreState) :
    ∃ s', exec (Store.ensureHeldIn h) v = (r.1, ⟨s', v.held.given r.1⟩) ∧ At s₀ h r.2 s' := by
  obtain ⟨s', hs', hat⟩ := exec_onStore_leads hx hv
  refine ⟨s', ?_, hat⟩
  rw [Store.ensureHeldIn, exec_bind, exec_get]
  obtain ⟨_ | id, m'⟩ := r
  · exact exec_bind_error hs'
  · exact exec_bind_ok hs'

/-- A write in a transaction of its own, before a failure takes the id back. -/
lemma exec_ensureHeld_scope {s : StoreState} (hs : s.Idle) (hc : s.connection.closed = false)
    (hk : s.store.key.length = SecretBox.keySize) (i : Interface) {c : Change Int}
    (hchange : c = Change.store s.store s.now s.entropy i) :
    ∃ e' s', exec (scope HeldM.onStore true fun h => do
        let _ ← Store.ensureHeldIn h
        HeldM.onStore (commit h)) ⟨s, i⟩ =
        ((c.outcome s.connection.durable).map fun _ => (),
          ⟨s', i.given (c.outcome s.connection.durable)⟩) ∧
      Settled s (c.after s.connection.durable) e' s' := by
  have hyields : Yields s s.begun (Store.ensureInterfaceIn s.begun i) s.connection.durable
      s.entropy (Change.store s.store s.now s.entropy i) := Yields.guarded (leads_ensure hk i _)
  rw [← hchange] at hyields
  obtain ⟨⟨phase, e'⟩, hlead, hok, herror⟩ := hyields
  have hbody : ∃ m : Progress, m.phase.durable s.connection.durable = c.after s.connection.durable ∧
      ∀ v : Held, v.held = i →
        At s s.begun ⟨.underWay s.connection.durable, s.entropy⟩ v.toStoreState →
        ∃ v', exec (do
            let _ ← Store.ensureHeldIn s.begun
            HeldM.onStore (commit s.begun)) v =
            ((c.outcome s.connection.durable).map fun _ => (), v') ∧
          v'.held = i.given (c.outcome s.connection.durable) ∧ At s s.begun m v'.toStoreState := by
    cases hout : c.outcome s.connection.durable with
    | error f =>
      refine ⟨⟨phase, e'⟩, (herror f hout).trans (Change.after_of_outcome_error hout).symm, ?_⟩
      rintro v rfl hv
      obtain ⟨s₁, h₁, hat₁⟩ := exec_ensureHeldIn hlead hv
      rw [hout] at h₁
      exact ⟨_, exec_bind_error h₁, rfl, hat₁⟩
    | ok id =>
      obtain rfl := hok id hout
      refine ⟨⟨.committed (c.after s.connection.durable), e'⟩, rfl, ?_⟩
      rintro v rfl hv
      obtain ⟨s₁, h₁, hat₁⟩ := exec_ensureHeldIn hlead hv
      rw [hout] at h₁
      obtain ⟨s₂, h₂, hat₂⟩ := @exec_onStore_leads _ s s.begun (commit s.begun) _ _
        (leads_commit _) ⟨s₁, v.held.given (.ok id)⟩ hat₁
      exact ⟨_, (exec_bind_ok h₁).trans h₂, rfl, hat₂⟩
  obtain ⟨m, hdurable, hbody⟩ := hbody
  obtain ⟨⟨s', held⟩, hv', hheld, hset⟩ :=
    @exec_scope Unit Held Interface @HeldM.onStore Held.toStoreState Held.held
      (fun h => do
        let _ ← Store.ensureHeldIn h
        HeldM.onStore (commit h))
      ⟨s, i⟩ m _ _ true
      (fun x v => ⟨_, HeldM.exec_onStore x v, rfl, rfl⟩) hs hc hbody
  refine ⟨_, s', ?_, hdurable ▸ hset⟩
  rw [hv']
  exact congrArg _ (congrArg _ hheld)

/-- A write ends as its change does. After a failure the interface has its id back. -/
lemma exec_ensureHeld {s : StoreState} (hs : s.Idle) (hc : s.connection.closed = false)
    (hk : s.store.key.length = SecretBox.keySize) (i : Interface) :
    ∃ e' s', exec Store.ensureHeld ⟨s, i⟩ =
        ((Change.store s.store s.now s.entropy i).outcome s.connection.durable,
          ⟨s', i.given
            ((Change.store s.store s.now s.entropy i).outcome s.connection.durable)⟩) ∧
      Settled s ((Change.store s.store s.now s.entropy i).after s.connection.durable) e' s' := by
  obtain ⟨e', s', hscope, hset⟩ := exec_ensureHeld_scope hs hc hk i rfl
  refine ⟨e', s', ?_, hset⟩
  simp only [Store.ensureHeld, exec_bind, exec_get, exec_tryCatch]
  rw [hscope]
  cases (Change.store s.store s.now s.entropy i).outcome s.connection.durable <;> rfl

end Transaction

section

variable {σ α β : Type}

lemma exec_map (x : ExceptT Failure (StateM σ) α) (g : α → β) (s : σ) :
    exec (x >>= fun a => pure (g a)) s = ((exec x s).1.map g, (exec x s).2) := by
  rw [exec_bind]
  rcases exec x s with ⟨_ | _, t⟩ <;> rfl

end

namespace Transaction

variable {α β : Type} {s : StoreState}

/-- In `s`, which is idle, `x` carries out the change `c` and ends as it does. -/
def Performs (s : StoreState) (x : StoreM α) (c : Change α) : Prop :=
  ∃ e' s', exec x s = (c.outcome s.connection.durable, s') ∧
    Settled s (c.after s.connection.durable) e' s'

lemma Performs.map {x : StoreM α} {c : Change α} (g : α → β) (hx : Performs s x c) :
    Performs s (x >>= fun a => pure (g a)) (g <$> c) := by
  obtain ⟨e', s', hs', hset⟩ := hx
  refine ⟨e', s', ?_, ?_⟩
  · rw [exec_map, hs', Change.outcome_map]
  · rwa [Change.after_map]

lemma settled_self (hs : s.Idle) (hc : s.connection.closed = false) :
    Settled s s.connection.durable s.entropy s :=
  ⟨rfl, rfl, hc, rfl, rfl, hs⟩

lemma Performs.guarded {x : β → StoreM α} {check : Except Failure β} {c : β → Change α}
    (hs : s.Idle) (hc : s.connection.closed = false) (hx : ∀ b, Performs s (x b) (c b)) :
    Performs s (StoreM.lift check >>= x) (Change.guarded check c) := by
  cases check with
  | error f =>
    have hrun := Change.run_guarded_error f c s.connection.durable
    refine ⟨s.entropy, s, ?_, ?_⟩
    · rw [Change.outcome_of_error hrun]
      exact exec_bind_error (StoreM.exec_lift _)
    · rw [Change.after_of_error hrun]
      exact settled_self hs hc
  | ok b =>
    obtain ⟨e', s', hs', hset⟩ := hx b
    exact ⟨e', s', (exec_bind_ok (StoreM.exec_lift _)).trans hs', hset⟩

/-- What is only recorded after an operation changes nothing in the store. -/
lemma Performs.record {x : StoreM α} {c : Change α} {level : LogLevel} {source : LogSource}
    {text : α → String} (hx : Performs s x c) :
    Performs s (x >>= fun a => do StoreM.record level source (text a); return a) c := by
  obtain ⟨e', s', hs', hset⟩ := hx
  cases hout : c.outcome s.connection.durable with
  | error f =>
    rw [hout] at hs'
    exact ⟨e', s', by rw [exec_bind_error hs', hout], hset⟩
  | ok a =>
    rw [hout] at hs'
    refine ⟨e', { s' with toSurroundings := s'.toSurroundings.record level source (text a) }, ?_,
      hset.store, hset.now, hset.closed, hset.durable, hset.entropy, hset.idle.working,
      hset.idle.finished_lt⟩
    rw [exec_bind_ok hs', hout]
    rfl

lemma performs_reading {body : Handle → StoreM α} {f : Tables → Except Failure α}
    (hs : s.Idle) (hc : s.connection.closed = false)
    (hbody : Finds s s.begun s.connection.durable s.entropy (body s.begun)
      (f s.connection.durable)) : Performs s (Store.reading body) (Change.look f) := by
  obtain ⟨s', hs', hset⟩ := exec_reading hs hc hbody
  refine ⟨s.entropy, s', ?_, ?_⟩
  · rw [hs', Change.outcome_look]
  · rwa [Change.after_look]

lemma performs_lastLogByDevice (hs : s.Idle) (hc : s.connection.closed = false)
    (device network : String) :
    Performs s (Store.lastLogByDevice device network)
      (Change.look fun t => t.entryNamed device network) := by
  have hfind : Finds s s.begun s.connection.durable s.entropy
      (History.lastNamed s.begun device network)
      (s.connection.durable.newestNamed device network) := leads_lastNamed device network _
  obtain ⟨s', hs', hset⟩ := @exec_reading _ (fun h => History.lastNamed h device network) s _
    hs hc hfind
  refine ⟨s.entropy, s', ?_, by rwa [Change.after_look]⟩
  rw [Change.outcome_look, Tables.entryNamed, Store.lastLogByDevice]
  cases hnewest : s.connection.durable.newestNamed device network with
  | error f =>
    rw [hnewest] at hs'
    exact exec_bind_error hs'
  | ok last =>
    rw [hnewest] at hs'
    rw [exec_bind_ok hs']
    cases last <;> rfl

lemma performs_ensureInterface (hs : s.Idle) (hc : s.connection.closed = false)
    (hk : s.store.key.length = SecretBox.keySize) (i : Interface) :
    Performs s (Store.ensureInterface i) (Change.store s.store s.now s.entropy i) := by
  obtain ⟨e', s', hs', hset⟩ := exec_ensureHeld hs hc hk i
  refine ⟨e', s', ?_, hset⟩
  rw [Store.ensureInterface, exec_bind, HeldM.exec_holding, hs']
  exact StoreM.exec_lift _

lemma performs_recordJoin (config : Config) (hs : s.Idle) (hc : s.connection.closed = false)
    (hk : s.store.key.length = SecretBox.keySize) (apiUrl : Option String) (privateKey : Bytes)
    (listenPort : Option Int) (r : JoinResponse) (message : String) :
    Performs s (Agent.recordJoin config apiUrl privateKey listenPort r message)
      (Change.guarded (orFail (r.checkKeys .recordJoin)) fun _ =>
        Change.logged (Agent.joined config apiUrl privateKey listenPort r) fun _ =>
          Change.record s.store s.now s.entropy
            (Agent.joined config apiUrl privateKey listenPort r) .join .joined
            (Agent.messageOr message ("joined network " ++
              Text.quote (Agent.joined config apiUrl privateKey listenPort r).network.name))) := by
  unfold Agent.recordJoin
  refine Performs.guarded hs hc fun _ => Performs.record ?_
  generalize Agent.joined config apiUrl privateKey listenPort r = i
  exact exec_logged_change hs hc fun _ => yields_record hk i _ _ _

lemma performs_recordRefresh (hs : s.Idle) (hc : s.connection.closed = false)
    (hk : s.store.key.length = SecretBox.keySize) (i : Interface) (r : JoinResponse)
    (message : String) :
    Performs s (Agent.recordRefresh i r message)
      (Change.guarded (orFail (r.checkKeys .recordRefresh)) fun _ =>
        Change.logged (Agent.refreshed i r) fun _ =>
          Change.record s.store s.now s.entropy (Agent.refreshed i r) .refresh .refreshed
            (Agent.messageOr message
              ("refreshed " ++ shown (Agent.refreshed i r).peers.length ++ " peers"))) := by
  unfold Agent.recordRefresh
  refine Performs.guarded hs hc fun _ => ?_
  generalize Agent.refreshed i r = i
  refine exec_logged_change hs hc fun _ => ?_
  dsimp only
  exact yields_record hk i _ _ _

/-- A call carries out its change and ends as the change does. -/
theorem performs_run (config : Config) (hs : s.Idle) (hc : s.connection.closed = false)
    (hk : s.store.key.length = SecretBox.keySize) (c : Call Interface) :
    Performs s (c.run config) (c.change config s.store s.now s.entropy) := by
  cases c with
  | ensure i => exact (performs_ensureInterface hs hc hk i).map Answer.id
  | interface id => exact (performs_reading hs hc (finds_interfaceIn id)).map Answer.interface
  | interfaceByDevice device network =>
    exact (performs_reading hs hc (finds_interfaceNamed device network)).map Answer.interface
  | interfaces => exact (performs_reading hs hc finds_interfaces).map Answer.listed
  | lastLogByDevice device network =>
    exact (performs_lastLogByDevice hs hc device network).map fun x => Answer.entry (some x)
  | join apiUrl privateKey listenPort response message =>
    exact (performs_recordJoin config hs hc hk apiUrl privateKey listenPort response message).map
      Answer.interface
  | refresh i response message =>
    exact (performs_recordRefresh hs hc hk i response message).map Answer.interface
  | applied i message =>
    refine Performs.map (fun x => Answer.entry (some x)) ?_
    exact exec_logged_change hs hc fun _ => Yields.guarded (leads_append _ _ _ _ _ _)
  | failed i operation message =>
    refine Performs.map (fun x => Answer.entry (some x)) ?_
    exact exec_logged_change hs hc fun _ => Yields.guarded (leads_appendNamed _ _ _ _ _ _)
  | needsApply i =>
    refine Performs.map Answer.flag ?_
    exact exec_logged_change hs hc fun _ => Yields.pure _

/-- Calls other than a write only use the interface that they are given. -/
lemma exec_perform_of_ne (config : Config) {c : Call Interface} (hne : ∀ i, c ≠ .ensure i)
    (s : StoreState) :
    exec (c.perform config) s =
      (.ok ((exec (c.run config) s).1, c.iface?), (exec (c.run config) s).2) := by
  have hrun : ∀ o : Option Interface,
      exec (do return (← StoreM.attempt (c.run config), o)) s =
        (.ok ((exec (c.run config) s).1, o), (exec (c.run config) s).2) := by
    intro o
    rw [exec_map, StoreM.exec_attempt]
    rfl
  cases c with
  | ensure i => exact absurd rfl (hne i)
  | _ => exact hrun _

lemma heldAfter_of_ne {c : Call Interface} (hne : ∀ i, c ≠ .ensure i)
    (r : Except Failure Answer) : c.heldAfter r = c.iface? := by
  cases c with
  | ensure i => exact absurd rfl (hne i)
  | _ => rfl

/-- A call is told how it ended and what has become of the interface that it was given. -/
theorem exec_perform (config : Config) (hs : s.Idle) (hc : s.connection.closed = false)
    (hk : s.store.key.length = SecretBox.keySize) (c : Call Interface) :
    ∃ e' s', exec (c.perform config) s =
        (.ok ((c.change config s.store s.now s.entropy).outcome s.connection.durable,
          c.heldAfter ((c.change config s.store s.now s.entropy).outcome s.connection.durable)),
          s') ∧
      Settled s ((c.change config s.store s.now s.entropy).after s.connection.durable) e' s' := by
  by_cases hens : ∃ i, c = .ensure i
  · obtain ⟨i, rfl⟩ := hens
    obtain ⟨e', s', hs', hset⟩ := exec_ensureHeld hs hc hk i
    refine ⟨e', s', ?_, ?_⟩
    · rw [Call.perform, exec_map, HeldM.exec_holding, hs', Call.change, Change.outcome_map]
      cases (Change.store s.store s.now s.entropy i).outcome s.connection.durable <;> rfl
    · rwa [Call.change, Change.after_map]
  · have hne : ∀ i, c ≠ .ensure i := fun i h => hens ⟨i, h⟩
    obtain ⟨e', s', hs', hset⟩ := performs_run config hs hc hk c
    refine ⟨e', s', ?_, hset⟩
    rw [exec_perform_of_ne config hne, hs', heldAfter_of_ne hne]

/-- Where no transaction can be begun, there is no block. -/
lemma exec_scope_of_refused {body : Handle → StoreM α} {f : Failure}
    (hbegin : ∀ write, exec (begin_ write) s = (.error f, s)) (write : Bool) :
    exec (scope (fun x => x) write body) s = (.error f, s) :=
  exec_bind_error (hbegin write)

lemma exec_lift_scope_of_refused {body : Handle → HeldM α} {v : Held} {f : Failure}
    (hbegin : ∀ write, exec (begin_ write) v.toStoreState = (.error f, v.toStoreState))
    (write : Bool) : exec (scope HeldM.onStore write body) v = (.error f, v) := by
  rw [scope]
  refine exec_bind_error ?_
  rw [HeldM.exec_onStore, hbegin]

end Transaction

/-- What a check fails with, or `f` if it passes. -/
def Failure.afterCheck (f : Failure) : Except AgentError Unit → Failure
  | .error e => .agent e
  | .ok _ => f

/-- How a call ends if no transaction can be begun for the reason `f`; the check of a response comes
before that. -/
def Call.refusedFor (f : Failure) : Call Interface → Failure
  | join _ _ _ response _ => f.afterCheck (response.checkKeys .recordJoin)
  | refresh _ response _ => f.afterCheck (response.checkKeys .recordRefresh)
  | _ => f

/-- Why a closed store refuses a call. -/
def Call.refusal (store : Store) (c : Call Interface) : Failure :=
  c.refusedFor (.agent (Transaction.closedError store))

namespace Transaction

variable {s : StoreState} {f : Failure}

lemma exec_run_of_refused (config : Config)
    (hbegin : ∀ write, exec (begin_ write) s = (.error f, s))
    {c : Call Interface} (hne : ∀ i, c ≠ .ensure i) :
    exec (c.run config) s = (.error (c.refusedFor f), s) := by
  have hscope : ∀ {α : Type} (write : Bool) (body : Handle → StoreM α),
      exec (scope (fun x => x) write body) s = (.error f, s) :=
    fun write body => exec_scope_of_refused hbegin write
  cases c with
  | ensure i => exact absurd rfl (hne i)
  | lastLogByDevice device network => exact exec_bind_error (exec_bind_error (hscope false _))
  | join apiUrl privateKey listenPort response message =>
    rw [Call.refusedFor]
    cases hcheck : response.checkKeys .recordJoin with
    | error e =>
      refine exec_bind_error (exec_bind_error ?_)
      rw [StoreM.exec_lift, hcheck]
      rfl
    | ok u =>
      have hpasses : exec (StoreM.lift (orFail (response.checkKeys .recordJoin))) s = (.ok u, s) := by
        rw [StoreM.exec_lift, hcheck]
        rfl
      refine exec_bind_error ?_
      rw [Agent.recordJoin, exec_bind_ok hpasses]
      exact exec_bind_error (hscope true _)
  | refresh i response message =>
    rw [Call.refusedFor]
    cases hcheck : response.checkKeys .recordRefresh with
    | error e =>
      refine exec_bind_error (exec_bind_error ?_)
      rw [StoreM.exec_lift, hcheck]
      rfl
    | ok u =>
      have hpasses : exec (StoreM.lift (orFail (response.checkKeys .recordRefresh))) s =
          (.ok u, s) := by
        rw [StoreM.exec_lift, hcheck]
        rfl
      refine exec_bind_error ?_
      rw [Agent.recordRefresh, exec_bind_ok hpasses]
      exact hscope true _
  | applied i message => exact exec_bind_error (hscope true _)
  | failed i operation message => exact exec_bind_error (hscope true _)
  | needsApply i => exact exec_bind_error (hscope true _)
  | interface id => exact exec_bind_error (hscope false _)
  | interfaceByDevice device network => exact exec_bind_error (hscope false _)
  | interfaces => exact exec_bind_error (hscope false _)

/-- A call that can begin no transaction is refused, and leaves the state and the interface that it
was given as they were. -/
theorem exec_perform_of_refused (config : Config)
    (hbegin : ∀ write, exec (begin_ write) s = (.error f, s)) (c : Call Interface) :
    exec (c.perform config) s = (.ok (.error (c.refusedFor f), c.iface?), s) := by
  by_cases hens : ∃ i, c = .ensure i
  · obtain ⟨i, rfl⟩ := hens
    rw [Call.perform, exec_map, HeldM.exec_holding]
    simp only [Store.ensureHeld, exec_bind, exec_get, exec_tryCatch]
    rw [exec_lift_scope_of_refused hbegin]
    rfl
  · have hne : ∀ i, c ≠ .ensure i := fun i h => hens ⟨i, h⟩
    rw [exec_perform_of_ne config hne, exec_run_of_refused config hbegin hne]

/-- A closed store refuses every call and stays as it is. -/
theorem exec_perform_of_closed (config : Config) (hc : s.connection.closed = true)
    (c : Call Interface) :
    exec (c.perform config) s = (.ok (.error (c.refusal s.store), c.iface?), s) :=
  exec_perform_of_refused config (exec_begin_of_closed hc) c

end Transaction

end MeshAgent
