import MeshAgent.Proofs.Secret.Opened
import MeshAgent.Proofs.Store.Transaction

/-!
# Steps of a transaction

Every step on an open transaction is a check of its arguments and one change of the working copy. A
step that fails has changed nothing: an interface is written together with its peers or not at all,
since the statements after its row cannot fail.
-/
namespace MeshAgent

/-- The random source after `n` more draws. -/
def Entropy.skip (e : Entropy) (n : Nat) : Entropy := { e with drawn := e.drawn + n }

/-- The nonce of the next draw. -/
def Entropy.nonce (e : Entropy) : Bytes := (e.draw SecretBox.nonceSize).1

lemma Entropy.length_nonce (e : Entropy) : e.nonce.length = SecretBox.nonceSize :=
  length_draw e SecretBox.nonceSize

namespace Tables

def addPeer (t : Tables) (id : Int) (c : PeerColumns) : Tables :=
  { t with peers := t.peers ++ [{ c with rowId := t.nextPeerId, interfaceId := id }] }

/-- Adds the peers of an interface, one after the other. -/
def addPeers (t : Tables) (id : Int) (peers : List Device) : Tables :=
  peers.foldl (fun t p => t.addPeer id p.toPeerColumns) t

/-- Puts the given peers in the place of those that an interface has. -/
def replacePeers (t : Tables) (id : Int) (peers : List Device) : Tables :=
  (t.deletePeers id).addPeers id peers

@[simp] lemma hasInterface_addPeer (t : Tables) (id i : Int) (c : PeerColumns) :
    (t.addPeer id c).hasInterface i = t.hasInterface i := rfl

lemma insertPeer_eq {t : Tables} {id : Int} (h : t.hasInterface id = true) (c : PeerColumns) :
    t.insertPeer id c = .ok (t.addPeer id c) := by
  rw [insertPeer, if_pos h]
  rfl

lemma mem_insertRow {row r : InterfaceRow} {rs : List InterfaceRow} :
    r ∈ insertRow row rs ↔ r = row ∨ r ∈ rs := by
  induction rs with
  | nil => simp [insertRow]
  | cons a rs ih =>
    rw [insertRow]
    split
    · simp
    · simp only [List.mem_cons, ih]
      exact or_left_comm

end Tables

/-- The rows of the interfaces once `row` has taken its place among `rows`. -/
def InterfaceRow.written (rows : List InterfaceRow) (known : Bool) (id now : Int)
    (c : InterfaceColumns) : List InterfaceRow :=
  if known then
    rows.map fun r => if r.id = id then { r with toInterfaceColumns := c, updatedAt := some now } else r
  else
    Tables.insertRow { c with id, createdAt := some now, updatedAt := some now } rows

namespace Tables

/-- What a row is written under, why it is refused, and which tables it makes. -/
lemma upsertInterface_eq_ok {t t' : Tables} {given : Option Int} {now id : Int}
    {c : InterfaceColumns} (h : t.upsertInterface given now c = .ok (t', id)) :
    t.idFor given = .ok id ∧ t.conflict? (some id) c = none ∧
      t' = { t with
        interfaces := InterfaceRow.written t.interfaces (t.hasInterface id) id now c
        lastInterfaceId := max t.lastInterfaceId id } := by
  simp only [upsertInterface, bind, Except.bind] at h
  split at h
  · simp at h
  · rename_i id' hid
    split at h
    · simp at h
    · rename_i hconflict
      simp only [Except.ok.injEq, Prod.mk.injEq] at h
      obtain ⟨ht, rfl⟩ := h
      exact ⟨hid, hconflict, ht.symm⟩

lemma hasInterface_iff {t : Tables} {id : Int} :
    t.hasInterface id = true ↔ ∃ r ∈ t.interfaces, r.id = id := by
  simp [hasInterface]

/-- A row that has been written is there. -/
lemma hasInterface_upsert {t t' : Tables} {given : Option Int} {now id : Int}
    {c : InterfaceColumns} (h : t.upsertInterface given now c = .ok (t', id)) :
    t'.hasInterface id = true := by
  obtain ⟨-, -, rfl⟩ := upsertInterface_eq_ok h
  rw [hasInterface_iff]
  simp only [InterfaceRow.written]
  split
  · rename_i hknown
    obtain ⟨r, hr, hid⟩ := hasInterface_iff.mp hknown
    exact ⟨_, List.mem_map_of_mem hr, by simp [hid]⟩
  · exact ⟨_, mem_insertRow.mpr (Or.inl rfl), rfl⟩

end Tables

namespace Change

variable {α β : Type}

/-- Takes over a pure result. -/
def lift (r : Except Failure α) : Change α := StateT.lift r

/-- A change that depends on a check of its arguments. -/
def guarded (check : Except Failure β) (c : β → Change α) : Change α := lift check >>= c

lemma run_map (g : α → β) (c : Change α) (t : Tables) :
    (g <$> c).run t = (c.run t).map fun r => (g r.1, r.2) := rfl

lemma run_map_eq_ok {g : α → β} {c : Change α} {t t' : Tables} {b : β}
    (h : (g <$> c).run t = .ok (b, t')) : ∃ a, c.run t = .ok (a, t') ∧ b = g a := by
  rw [run_map] at h
  cases hc : c.run t with
  | error f => simp [hc, Except.map] at h
  | ok r =>
    obtain ⟨a, t₁⟩ := r
    simp only [hc, Except.map, Except.ok.injEq, Prod.mk.injEq] at h
    obtain ⟨rfl, rfl⟩ := h
    exact ⟨a, rfl, rfl⟩

@[simp] lemma outcome_map (g : α → β) (c : Change α) (t : Tables) :
    (g <$> c).outcome t = (c.outcome t).map g := by
  rw [outcome, run_map, outcome]
  cases c.run t <;> rfl

@[simp] lemma after_map (g : α → β) (c : Change α) (t : Tables) :
    (g <$> c).after t = c.after t := by
  rw [after, run_map, after]
  cases c.run t <;> rfl

@[simp] lemma guarded_ok (b : β) (c : β → Change α) : guarded (.ok b) c = c b := rfl

lemma run_guarded_error (f : Failure) (c : β → Change α) (t : Tables) :
    (guarded (.error f) c).run t = .error f := rfl

end Change

namespace Interface

/-- The id that an interface is to be stored under, if it has one. -/
def givenId (i : Interface) : Option Int := if 0 < i.id then some i.id else none

/-- The stored form of an interface whose secrets are sealed with the next two nonces. -/
def sealedColumns (i : Interface) (key : Bytes) (e : Entropy) : InterfaceColumns :=
  i.toColumns (Secret.blob key e.nonce i.key) (Secret.blob key (e.skip 1).nonce i.deviceToken)

end Interface

namespace Change

/-- Writes the row of an interface. -/
def upsert (store : Store) (now : Int) (e : Entropy) (i : Interface) : Change Int :=
  let seconds := now.tdiv 1000000
  statement (.upsertInterface i.label) none (i.givenId.toList ++ [seconds, i.listenPort]) fun t =>
    t.upsertInterface i.givenId seconds (i.sealedColumns store.key e)

/-- Writes an interface with its peers, whose keys have been checked. -/
def ensure (store : Store) (now : Int) (e : Entropy) (i : Interface) : Change Int := do
  let id ← upsert store now e i
  modify fun t => t.replacePeers id i.peers
  return id

lemma run_ensure (store : Store) (now : Int) (e : Entropy) (i : Interface) (t : Tables) :
    (ensure store now e i).run t =
      ((upsert store now e i).run t).map fun r => (r.1, r.2.replacePeers r.1 i.peers) := by
  simp only [ensure, StateT.run_bind]
  cases (upsert store now e i).run t <;> rfl

/-- Adds an entry to the log. -/
def append (now : Int) (i : Interface) (operation : Operation) (state : State) (dirty : Bool)
    (message : String) : Change Entry :=
  let seconds := now.fdiv 1000000
  (fun id => { id, seconds, operation, state, dirty, message }) <$>
    statement (.appendLog i.label) (some i.label) [i.id] fun t =>
      t.appendLog
        { seconds := some seconds, interfaceId := i.id, operation := operation.name
          state := state.name, dirty := if dirty then 1 else 0, message }

end Change

namespace Transaction

/-- Checks the arguments of a step, draws, and carries out the change. -/
def Progress.guarded {α β : Type} (before : Tables) (check : Except Failure β) (draws : Nat)
    (c : β → Change α) (m : Progress) : Except Failure α × Progress :=
  match check with
  | .error f => (.error f, m)
  | .ok b => Progress.apply before (c b) { m with entropy := m.entropy.skip draws }

variable {α : Type} {s₀ : StoreState} {h : Handle}

lemma leads_draw (n : Nat) (m : Progress) :
    Leads s₀ h (StoreM.draw n) m
      (.ok (m.entropy.draw n).1, { m with entropy := m.entropy.skip 1 }) := by
  intro s hs
  refine ⟨{ s with entropy := s.entropy.skip 1 }, ?_, hs.store, hs.now, hs.closed, hs.durable,
    hs.working, ?_, hs.finished, hs.lt_begun, hs.finished_lt⟩
  · rw [← hs.entropy]
    rfl
  · exact congrArg (·.skip 1) hs.entropy

lemma leads_sealed (hk : s₀.store.key.length = SecretBox.keySize) (secret : Bytes)
    (m : Progress) :
    Leads s₀ h (StoreM.sealed secret) m
      (.ok (Secret.blob s₀.store.key m.entropy.nonce secret),
        { m with entropy := m.entropy.skip 1 }) := by
  refine (leads_draw _ m).bind (Leads.get fun s hs => ?_)
  rw [hs.store, Secret.encrypt_eq hk]
  exact Leads.lift _

lemma leads_deletePeers (activity : Activity) (id : Int) {t : Tables} {m : Progress}
    (hp : m.phase.tables? = some t) :
    Leads s₀ h (execute h activity none [] fun t => .ok (t.deletePeers id, ()))
      m (.ok (), m.put (t.deletePeers id)) := by
  have hx := @leads_execute _ s₀ h activity none [] (fun t => .ok (t.deletePeers id, ())) m
  rwa [Progress.apply_of_ok hp rfl] at hx

/-- Peers of an interface that is there can always be added. -/
lemma leads_addPeers (id : Int) (peers : List Device) {t : Tables} {m : Progress}
    (hp : m.phase.tables? = some t) (ht : t.hasInterface id = true) :
    Leads s₀ h
      (peers.forM fun p => execute h (.insertPeer p.id) (some p.id) [] fun t =>
        (t.insertPeer id p.toPeerColumns).map (·, ()))
      (m.put t) (.ok (), m.put (t.addPeers id peers)) := by
  induction peers generalizing t m with
  | nil => exact Leads.pure _
  | cons p peers ih =>
    have hstep : Leads s₀ h
        (execute h (.insertPeer p.id) (some p.id) [] fun t =>
          (t.insertPeer id p.toPeerColumns).map (·, ()))
        (m.put t) (.ok (), m.put (t.addPeer id p.toPeerColumns)) := by
      have hx := @leads_execute _ s₀ h (.insertPeer p.id) (some p.id) []
        (fun t => (t.insertPeer id p.toPeerColumns).map (·, ())) (m.put t)
      have hrun : (Change.statement (.insertPeer p.id) (some p.id) []
          (fun t => (t.insertPeer id p.toPeerColumns).map (·, ()))).run t =
          .ok ((), t.addPeer id p.toPeerColumns) := by
        simp [Change.statement, StateT.run, Tables.insertPeer_eq ht, Except.map]
      rwa [Progress.apply_of_ok (Phase.tables?_put hp t) hrun, Progress.put_put] at hx
    have hrest := ih (m := m.put (t.addPeer id p.toPeerColumns))
      (Phase.tables?_put hp (t.addPeer id p.toPeerColumns)) (by simpa using ht)
    rw [Progress.put_put, Progress.put_put] at hrest
    exact hstep.bind hrest

lemma hasInterface_deletePeers (t : Tables) (id i : Int) :
    (t.deletePeers id).hasInterface i = t.hasInterface i := rfl

/-- The whole write of an interface is one change behind one check: when its row has been written,
nothing that follows can fail. -/
theorem leads_ensure (hk : s₀.store.key.length = SecretBox.keySize) (i : Interface)
    (m : Progress) :
    Leads s₀ h (Store.ensureInterfaceIn h i) m
      (m.guarded s₀.connection.durable (orFail (i.checkKeys (.upsertInterface i.label))) 2 fun _ =>
        Change.ensure s₀.store s₀.now m.entropy i) := by
  unfold Store.ensureInterfaceIn
  simp only
  cases hcheck : orFail (i.checkKeys (.upsertInterface i.label)) with
  | error f => exact (Leads.lift _).bind_error
  | ok u =>
    refine (Leads.lift _).bind (Leads.get fun s hs => ?_)
    rw [hs.now]
    refine (leads_sealed hk _ _).bind ((leads_sealed hk _ _).bind ?_)
    have hrow := @leads_execute _ s₀ h (.upsertInterface i.label) none
      (i.givenId.toList ++ [s₀.now.tdiv 1000000, i.listenPort])
      (fun t => t.upsertInterface i.givenId (s₀.now.tdiv 1000000)
        (i.sealedColumns s₀.store.key m.entropy)) { m with entropy := m.entropy.skip 2 }
    change Leads s₀ h _ _ (Progress.apply _ (Change.upsert s₀.store s₀.now m.entropy i) _) at hrow
    change Leads s₀ h _ _
      (Progress.apply _ (Change.ensure s₀.store s₀.now m.entropy i)
        { m with entropy := m.entropy.skip 2 })
    change Leads s₀ h _ { m with entropy := m.entropy.skip 2 } _
    -- Both writes of the row start from where the nonces have been drawn.
    generalize ({ m with entropy := m.entropy.skip 2 } : Progress) = m₂ at hrow ⊢
    cases hp : m₂.phase.tables? with
    | none =>
      rw [Progress.apply_of_over hp] at hrow ⊢
      exact hrow.bind_error
    | some t =>
      cases hrun : (Change.upsert s₀.store s₀.now m.entropy i).run t with
      | error f =>
        have hens : (Change.ensure s₀.store s₀.now m.entropy i).run t = .error f := by
          rw [Change.run_ensure, hrun]; rfl
        rw [Progress.apply_of_error hp hrun] at hrow
        rw [Progress.apply_of_error hp hens]
        exact hrow.bind_error
      | ok r =>
        obtain ⟨id, t'⟩ := r
        have hens : (Change.ensure s₀.store s₀.now m.entropy i).run t =
            .ok (id, t'.replacePeers id i.peers) := by rw [Change.run_ensure, hrun]; rfl
        have hthere : t'.hasInterface id = true :=
          Tables.hasInterface_upsert (Change.statement_eq_ok.mp hrun).2
        have hp' := Phase.tables?_put hp t'
        rw [Progress.apply_of_ok hp hrun] at hrow
        rw [Progress.apply_of_ok hp hens]
        have hpeers := @leads_addPeers s₀ h id i.peers _ (m₂.put (t'.deletePeers id))
          (Phase.tables?_put hp _) ((hasInterface_deletePeers t' id id).trans hthere)
        refine hrow.bind ((leads_deletePeers _ _ hp').bind ?_)
        rw [Progress.put_put] at hpeers ⊢
        rw [Progress.put_put] at hpeers
        refine hpeers.bind ?_
        split
        · exact (Leads.record _ _ _).bind (Leads.pure _)
        · exact (Leads.record _ _ _).bind (Leads.pure _)

lemma leads_currentSecond (m : Progress) :
    Leads s₀ h History.currentSecond m
      ((History.checkTime (s₀.now.fdiv 1000000)).map fun _ => s₀.now.fdiv 1000000, m) := by
  refine Leads.get fun s hs => ?_
  rw [hs.now]
  exact (Leads.lift (History.checkTime (s₀.now.fdiv 1000000))).map fun _ => s₀.now.fdiv 1000000

/-- An entry is added by one change behind a look at the clock. -/
lemma leads_append (i : Interface) (operation : Operation) (state : State) (dirty : Bool)
    (message : String) (m : Progress) :
    Leads s₀ h (History.append h i operation state dirty message) m
      (m.guarded s₀.connection.durable (History.checkTime (s₀.now.fdiv 1000000)) 0 fun _ =>
        Change.append s₀.now i operation state dirty message) := by
  unfold History.append
  have hsecond := @leads_currentSecond s₀ h m
  cases hcheck : History.checkTime (s₀.now.fdiv 1000000) with
  | error f =>
    rw [hcheck] at hsecond
    exact hsecond.bind_error
  | ok u =>
    rw [hcheck] at hsecond
    refine hsecond.bind ?_
    have hrow := @leads_execute _ s₀ h (.appendLog i.label) (some i.label) [i.id]
      (fun t => t.appendLog
        { seconds := some (s₀.now.fdiv 1000000), interfaceId := i.id, operation := operation.name
          state := state.name, dirty := if dirty then 1 else 0, message }) m
    change Leads s₀ h _ _ (Progress.apply _ (Change.append s₀.now i operation state dirty message) m)
    cases hp : m.phase.tables? with
    | none =>
      rw [Progress.apply_of_over hp] at hrow ⊢
      exact hrow.bind_error
    | some t =>
      cases hrun : (Change.statement (.appendLog i.label) (some i.label) [i.id]
          fun t => t.appendLog
            { seconds := some (s₀.now.fdiv 1000000), interfaceId := i.id
              operation := operation.name, state := state.name, dirty := if dirty then 1 else 0
              message }).run t with
      | error f =>
        have happ : (Change.append s₀.now i operation state dirty message).run t = .error f := by
          rw [Change.append, Change.run_map, hrun]; rfl
        rw [Progress.apply_of_error hp hrun] at hrow
        rw [Progress.apply_of_error hp happ]
        exact hrow.bind_error
      | ok r =>
        obtain ⟨id, t'⟩ := r
        have happ : (Change.append s₀.now i operation state dirty message).run t =
            .ok ({ id, seconds := s₀.now.fdiv 1000000, operation, state, dirty, message }, t') := by
          rw [Change.append, Change.run_map, hrun]; rfl
        rw [Progress.apply_of_ok hp hrun] at hrow
        rw [Progress.apply_of_ok hp happ]
        exact hrow.bind ((Leads.record _ _ _).bind (Leads.pure _))

end Transaction

namespace History

/-- The operation and the state that two texts name. -/
def readNames (operation state : String) : Except Failure (Operation × State) :=
  match Operation.ofName? operation with
  | none => .error (.notMember operation "Operation")
  | some o =>
    match State.ofName? state with
    | none => .error (.notMember state "State")
    | some s => .ok (o, s)

/-- What is looked at before an entry with the given names is added. -/
def checkNamed (now : Int) (operation state : String) : Except Failure (Operation × State) := do
  checkTime (now.fdiv 1000000)
  readNames operation state

end History

namespace Tables

/-- The newest entry of an interface, or why it cannot be read. -/
def newest (t : Tables) (i : Interface) : Except Failure (Option Entry) :=
  if !fitsColumn i.id then .error .integerRange
  else
    match t.lastLog? i.id with
    | none => .ok none
    | some r => (History.entryOfRow r).map some

/-- The newest entry of the interface with the given names. -/
def newestNamed (t : Tables) (device network : String) : Except Failure (Option Entry) :=
  match t.lastLogNamed? device network with
  | none => .ok none
  | some r => (History.entryOfRow r).map some

end Tables

namespace Transaction

variable {α : Type} {s₀ : StoreState} {h : Handle}

lemma leads_appendNamed (i : Interface) (operation state : String) (dirty : Bool)
    (message : String) (m : Progress) :
    Leads s₀ h (History.appendNamed h i operation state dirty message) m
      (m.guarded s₀.connection.durable (History.checkNamed s₀.now operation state) 0 fun names =>
        Change.append s₀.now i names.1 names.2 dirty message) := by
  unfold History.appendNamed
  have hsecond := @leads_currentSecond s₀ h m
  cases hcheck : History.checkTime (s₀.now.fdiv 1000000) with
  | error f =>
    rw [hcheck] at hsecond
    have hnamed : History.checkNamed s₀.now operation state = .error f := by
      rw [History.checkNamed, hcheck]; rfl
    rw [hnamed]
    exact hsecond.bind_error
  | ok u =>
    rw [hcheck] at hsecond
    have hnamed : History.checkNamed s₀.now operation state =
        History.readNames operation state := by
      rw [History.checkNamed, hcheck]; rfl
    rw [hnamed]
    refine hsecond.bind ?_
    unfold History.readNames
    cases Operation.ofName? operation with
    | none => exact Leads.throw _
    | some o =>
      cases State.ofName? state with
      | none => exact Leads.throw _
      | some st =>
        have happ := @leads_append s₀ h i o st dirty message m
        rwa [hcheck] at happ

/-- A query that may find a row, and the reading of the row. -/
lemma leads_lookup {activity : Activity} {entity : Option String} {numbers : List Int}
    {find : Tables → Option LogRow} (m : Progress) :
    Leads s₀ h
      (do
        match ← query h activity entity numbers find with
        | none => return none
        | some r => return some (← StoreM.lift (History.entryOfRow r)))
      m
      (m.phase.look fun t =>
        if numbers.any fun n => !fitsColumn n then .error .integerRange
        else
          match find t with
          | none => .ok none
          | some r => (History.entryOfRow r).map some, m) := by
  have hrow := @leads_query _ s₀ h activity entity numbers find m
  cases hp : m.phase.tables? with
  | none =>
    rw [Phase.look_of_over hp] at hrow ⊢
    exact hrow.bind_error
  | some t =>
    rw [Phase.look_of_tables hp] at hrow ⊢
    by_cases hn : (numbers.any fun n => !fitsColumn n) = true
    · rw [if_pos hn] at hrow ⊢
      exact hrow.bind_error
    · rw [if_neg hn] at hrow ⊢
      refine hrow.bind ?_
      cases find t with
      | none => exact Leads.pure _
      | some r => exact (Leads.lift (History.entryOfRow r)).map some

lemma leads_last (i : Interface) (m : Progress) :
    Leads s₀ h (History.last h i) m (m.phase.look fun t => t.newest i, m) := by
  have hlook := @leads_lookup s₀ h (.queryLastLog i.label) (some i.label) [i.id]
    (fun t => t.lastLog? i.id) m
  simp only [List.any_cons, List.any_nil, Bool.or_false] at hlook
  exact hlook

lemma leads_lastNamed (device network : String) (m : Progress) :
    Leads s₀ h (History.lastNamed h device network) m
      (m.phase.look fun t => t.newestNamed device network, m) := by
  have hlook := @leads_lookup s₀ h .queryDeviceLog (some (Interface.labelOf device network)) []
    (fun t => t.lastLogNamed? device network) m
  simp only [List.any_nil, Bool.false_eq_true, if_false] at hlook
  exact hlook

end Transaction

end MeshAgent
