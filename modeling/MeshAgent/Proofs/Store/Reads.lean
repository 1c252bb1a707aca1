import MeshAgent.Proofs.Store.Steps

/-!
# Reads

What a read answers is a function of the tables and of the store key. It changes nothing, and the
transaction that it runs in leaves nothing behind.
-/
namespace MeshAgent

namespace Tables

/-- No interface has the id. -/
def missing (id : Int) : AgentError :=
  { kind := .notFound, reason := .noInterface id, activity := some (.queryInterface id) }

/-- No interface has the names. -/
def missingNamed (device network : String) : AgentError :=
  { kind := .notFound, reason := .noInterfaceFor device network, activity := some .queryDevice
    entity := some (Interface.labelOf device network) }

/-- There is no entry for an interface with the names. -/
def missingLog (device network : String) : AgentError :=
  { kind := .notFound, reason := .noLogFor device network, activity := some .queryDeviceLog
    entity := some (Interface.labelOf device network) }

/-- The interface with the given id. -/
def load (t : Tables) (key : Bytes) (id : Int) : Except Failure Interface :=
  if !fitsColumn id then .error .integerRange
  else
    match t.interface? id with
    | none => .error (.agent (missing id))
    | some r => orFail (Stored.interface key r (t.peersOf id))

/-- The interface with the given names. -/
def loadNamed (t : Tables) (key : Bytes) (device network : String) : Except Failure Interface :=
  match t.interfaceNamed? device network with
  | none => .error (.agent (missingNamed device network))
  | some r => t.load key r.id

/-- The interface with the given id and its newest entry. -/
def loadListed (t : Tables) (key : Bytes) (id : Int) : Except Failure Store.Listed := do
  let interface ← t.load key id
  let entry ← t.newest interface
  return { interface, entry }

/-- All interfaces with their newest entries. -/
def listed (t : Tables) (key : Bytes) : Except Failure (List Store.Listed) :=
  (t.interfaces.map (·.id)).mapM (t.loadListed key)

/-- The newest entry of the interface with the given names, which has to have one. -/
def entryNamed (t : Tables) (device network : String) : Except Failure Entry := do
  match ← t.newestNamed device network with
  | some e => return e
  | none => .error (.agent (missingLog device network))

end Tables

namespace Transaction

variable {α β : Type} {s₀ : StoreState} {h : Handle} {t : Tables} {e : Entropy}

/-- `x` finds out `r` about the working copy. -/
abbrev Finds (s₀ : StoreState) (h : Handle) (t : Tables) (e : Entropy) (x : StoreM α)
    (r : Except Failure α) : Prop :=
  Leads s₀ h x ⟨.underWay t, e⟩ (r, ⟨.underWay t, e⟩)

lemma Finds.bind {x : StoreM α} {f : α → StoreM β} {r : Except Failure α}
    {g : α → Except Failure β} (hx : Finds s₀ h t e x r)
    (hf : ∀ a, r = .ok a → Finds s₀ h t e (f a) (g a)) : Finds s₀ h t e (x >>= f) (r >>= g) := by
  cases r with
  | error f => exact hx.bind_error
  | ok a => exact Leads.bind hx (hf a rfl)

lemma finds_query (activity : Activity) (entity : Option String) (numbers : List Int)
    (read : Tables → α) :
    Finds s₀ h t e (query h activity entity numbers read)
      (if numbers.any fun n => !fitsColumn n then .error .integerRange else .ok (read t)) :=
  leads_query activity entity numbers read ⟨.underWay t, e⟩

lemma finds_last (i : Interface) : Finds s₀ h t e (History.last h i) (t.newest i) :=
  leads_last i ⟨.underWay t, e⟩

lemma finds_mapM {f : α → StoreM β} {g : α → Except Failure β}
    (hf : ∀ a, Finds s₀ h t e (f a) (g a)) (as : List α) :
    Finds s₀ h t e (as.mapM f) (as.mapM g) := by
  induction as with
  | nil => exact Leads.pure _
  | cons a as ih =>
    rw [List.mapM_cons, List.mapM_cons]
    exact (hf a).bind fun b _ => ih.bind fun bs _ => Leads.pure _

lemma finds_interfaceIn (id : Int) :
    Finds s₀ h t e (Store.interfaceIn h id) (t.load s₀.store.key id) := by
  have hq := @finds_query _ s₀ h t e (.queryInterface id) none [id]
    (fun t => (t.interface? id).map fun r => (r, t.peersOf id))
  simp only [List.any_cons, List.any_nil, Bool.or_false] at hq
  unfold Store.interfaceIn Tables.load
  by_cases hn : (!fitsColumn id) = true
  · rw [if_pos hn] at hq ⊢
    exact hq.bind_error
  · rw [if_neg hn] at hq ⊢
    refine Leads.bind hq ?_
    cases t.interface? id with
    | none => exact Leads.throw _
    | some r =>
      refine Leads.get fun s hs => ?_
      rw [hs.store]
      change Leads s₀ h _ _ (orFail (Stored.interface s₀.store.key r (t.peersOf id)), _)
      cases hr : orFail (Stored.interface s₀.store.key r (t.peersOf id)) with
      | error f => exact (Leads.lift _).bind_error
      | ok i => exact (Leads.lift _).bind ((Leads.record _ _ _).bind (Leads.pure _))

lemma finds_interfaceNamed (device network : String) :
    Finds s₀ h t e
      (do
        let entity := Interface.labelOf device network
        let found ← query h .queryDevice (some entity) [] fun t =>
          (t.interfaceNamed? device network).map (·.id)
        match found with
        | none =>
          StoreM.fail { kind := .notFound, reason := .noInterfaceFor device network
                        activity := some .queryDevice, entity := some entity }
        | some id => Store.interfaceIn h id)
      (t.loadNamed s₀.store.key device network) := by
  refine Leads.bind (finds_query _ _ _ _) ?_
  unfold Tables.loadNamed
  cases t.interfaceNamed? device network with
  | none => exact Leads.throw _
  | some r => exact finds_interfaceIn r.id

lemma finds_interfaces :
    Finds s₀ h t e
      (do
        let ids ← query h .queryInterfaces none [] fun t => t.interfaces.map (·.id)
        ids.mapM fun id => do
          let iface ← Store.interfaceIn h id
          return ({ interface := iface, entry := ← History.last h iface } : Store.Listed))
      (t.listed s₀.store.key) := by
  refine Leads.bind (finds_query _ _ _ _) (finds_mapM (fun id => ?_) _)
  exact (finds_interfaceIn id).bind fun i _ => (finds_last i).bind fun _ _ => Leads.pure _

end Transaction

end MeshAgent
