import MeshAgent.Proofs.Home.Callbacks
import MeshAgent.Proofs.Store.Refusals

/-!
# Steps that fail

Every reason for which a write can fail comes before the first row is touched, so a step that fails
leaves its transaction as it was, and the interface in the hands of the caller too. There is one
exception: when all ids are used up, the database rolls the transaction back, and what a callback does
after that is durable at once. But also then interfaces are written as a whole, with all their peers.
-/
namespace MeshAgent

open Transaction

namespace HandleCall

/-- What has become of the interface that a step was given. -/
def heldAfter : HandleCall Interface → Except Failure Answer → Option Interface
  | ensure i, .ok (.id id) => some { i with id }
  | c, _ => c.iface?

lemma heldAfter_error (c : HandleCall Interface) (f : Failure) :
    c.heldAfter (.error f) = c.iface? := by cases c <;> rfl

lemma heldAfter_of_ne {c : HandleCall Interface} (hne : ∀ i, c ≠ .ensure i)
    (r : Except Failure Answer) : c.heldAfter r = c.iface? := by
  cases c with
  | ensure i => exact absurd rfl (hne i)
  | _ => rfl

end HandleCall

namespace Transaction

variable {α β : Type} {s₀ s : StoreState} {h : Handle} {m : Progress} {before : Tables}

/-- The connection in a phase of a transaction. -/
def Phase.connection (before : Tables) (p : Phase) : Connection :=
  { durable := p.durable before, working := p.working?, closed := false }

lemma At.connection_eq (hs : At s₀ h m s) :
    s.connection = m.phase.connection s₀.connection.durable := by
  rw [Phase.connection, ← hs.durable, ← hs.working, ← hs.closed]

/-- A refusal leaves the connection alone, or rolls its transaction back. -/
lemma Phase.connection_refuse (p : Phase) (f : Failure) :
    (p.refuse before f).connection before =
      if f.endsTransaction then { p.connection before with working := none }
      else p.connection before := by
  cases p with
  | underWay t =>
    rw [refuse]
    split <;> rfl
  | _ => exact (ite_self _).symm

lemma Phase.refuse_of_not_endsTransaction (p : Phase) {f : Failure}
    (hf : f.endsTransaction = false) : p.refuse before f = p := by
  cases p with
  | underWay t => rw [refuse, hf, if_neg Bool.false_ne_true]
  | _ => rfl

lemma Progress.phase_apply_of_error {c : Change α} {f : Failure}
    (h : (m.apply before c).1 = .error f) :
    (m.apply before c).2.phase = m.phase.refuse before f := by
  cases hp : m.phase.tables? with
  | none =>
    rw [Progress.apply_of_over hp] at h ⊢
    obtain rfl := Except.error.inj h
    exact (m.phase.refuse_of_not_endsTransaction rfl).symm
  | some t =>
    cases hrun : c.run t with
    | error g =>
      rw [Progress.apply_of_error hp hrun] at h ⊢
      obtain rfl := Except.error.inj h
      rfl
    | ok r =>
      rw [Progress.apply_of_ok hp hrun] at h
      cases h

/-- What fails before the database is asked does not end the transaction. -/
lemma Progress.phase_guarded_of_error {check : Except Failure β} {draws : Nat} {c : β → Change α}
    (hcheck : FailsWith (fun f => f.endsTransaction = false) check) {f : Failure}
    (h : (m.guarded before check draws c).1 = .error f) :
    (m.guarded before check draws c).2.phase = m.phase.refuse before f := by
  cases check with
  | error g =>
    obtain rfl := Except.error.inj h
    exact (m.phase.refuse_of_not_endsTransaction (hcheck g rfl)).symm
  | ok b => exact Progress.phase_apply_of_error (m := { m with entropy := m.entropy.skip draws }) h

/-- What ends the transaction is an answer of the database. -/
lemma Progress.exists_of_guarded_ends {check : Except Failure β} {draws : Nat} {c : β → Change α}
    (hcheck : FailsWith (fun f => f.endsTransaction = false) check) {f : Failure}
    (h : (m.guarded before check draws c).1 = .error f) (hf : f.endsTransaction = true) :
    ∃ b t, m.phase.tables? = some t ∧ (c b).outcome t = .error f := by
  cases check with
  | error g =>
    obtain rfl := Except.error.inj h
    rw [hcheck g rfl] at hf
    cases hf
  | ok b =>
    have happly : (m.phase.apply before (c b)).1 = .error f := h
    cases hp : m.phase.tables? with
    | none =>
      rw [Phase.apply_of_over hp] at happly
      obtain rfl := Except.error.inj happly
      cases hf
    | some t =>
      refine ⟨b, t, rfl, ?_⟩
      cases hrun : (c b).run t with
      | error g =>
        rw [Phase.apply_of_error hp hrun] at happly
        exact (Change.outcome_of_error hrun).trans happly
      | ok r =>
        rw [Phase.apply_of_ok hp hrun] at happly
        cases happly

lemma At.tables_connection {t : Tables} (hs : At s₀ h m s) (ht : m.phase.tables? = some t) :
    s.connection.tables = t := by
  rw [Connection.tables, hs.working, hs.durable]
  generalize m.phase = p at ht
  rcases p with _ | ⟨_ | _, _⟩ | _ | _ <;> first | exact Option.some.inj ht | cases ht

end Transaction

/-! ## Ids that are used up -/

lemma DatabaseProblem.eq_idsExhausted_of_statement {α : Type} {activity : Activity}
    {entity : Option String} {overflow : Bool} {x : Except DatabaseProblem α} {f : Failure}
    (h : (if overflow then .error .integerRange else explained activity entity x) = .error f)
    (hf : f.endsTransaction = true) : x = .error idsExhausted := by
  cases overflow with
  | true =>
    obtain rfl := Except.error.inj h
    cases hf
  | false =>
    cases x with
    | ok a => cases h
    | error p =>
      obtain rfl := Except.error.inj h
      rw [endsTransaction_toAgentError] at hf
      exact congrArg _ (of_decide_eq_true hf)

namespace Tables

/-- All ids of interfaces, or all ids of entries, are used up. -/
def Full (t : Tables) : Prop := t.lastInterfaceId = maxInteger ∨ t.lastLogId = maxInteger

lemma last_of_accepts_exhausted {t : Tables} {given : Option Int} {c : InterfaceColumns}
    (h : t.accepts given c = .error .idsExhausted) : t.lastInterfaceId = maxInteger := by
  rcases Except.bind_eq_error.mp h with hid | ⟨id, -, hconflict⟩
  · cases given with
    | some id => cases hid
    | none =>
      by_contra hlast
      rw [idFor, if_neg hlast] at hid
      cases hid
  · split at hconflict
    · cases hconflict
    · cases hconflict

lemma last_of_nextLogId_exhausted {t : Tables} {id : Int}
    (h : t.nextLogId id = .error .idsExhausted) : t.lastLogId = maxInteger := by
  by_contra hlast
  rw [nextLogId, if_neg hlast] at h
  split at h <;> cases h

end Tables

/-! ## Checks -/

lemma Key.check_keeps (bytes : Bytes) (activity : Activity) (entity : String) :
    FailsWith (fun e => (Failure.agent e).endsTransaction = false)
      (Key.check bytes activity entity) := by
  rw [check]
  split
  · exact FailsWith.ok ()
  · exact FailsWith.error rfl

lemma Interface.checkKeys_keeps (i : Interface) (activity : Activity) :
    FailsWith (fun f => f.endsTransaction = false) (orFail (i.checkKeys activity)) := by
  have hkeys : FailsWith (fun e => (Failure.agent e).endsTransaction = false)
      (i.checkKeys activity) :=
    (Key.check_keeps _ _ _).bind fun _ => (Key.check_keeps _ _ _).bind fun _ =>
      FailsWith.forM fun _ _ => Key.check_keeps _ _ _
  intro f hf
  obtain ⟨e, he, rfl⟩ := orFail_eq_error.mp hf
  exact hkeys e he

lemma History.checkNamed_keeps (now : Int) (operation state : String) :
    FailsWith (fun f => f.endsTransaction = false) (checkNamed now operation state) := by
  have htime : FailsWith (fun f => f.endsTransaction = false) (checkTime (now.fdiv 1000000)) := by
    rw [checkTime]
    split
    · exact FailsWith.ok ()
    · dsimp only
      split <;> exact FailsWith.error rfl
  refine htime.bind fun _ => ?_
  rw [readNames]
  cases Operation.ofName? operation with
  | none => exact FailsWith.error rfl
  | some o =>
    cases State.ofName? state with
    | none => exact FailsWith.error rfl
    | some s => exact FailsWith.ok (o, s)

namespace HandleCall

variable {store : Store} {now : Int} {before : Tables} {m : Progress}

/-- A write that fails leaves its transaction as the refusal of a statement does. -/
theorem phase_effect_of_error {c : HandleCall Interface} (hc : c.writes = true) {f : Failure}
    (h : (c.effect store now before m).1 = .error f) :
    (c.effect store now before m).2.phase = m.phase.refuse before f := by
  cases c with
  | ensure i => exact Progress.phase_guarded_of_error (i.checkKeys_keeps _) h
  | append i operation state dirty message =>
    exact Progress.phase_guarded_of_error (History.checkNamed_keeps now operation state) h
  | _ => cases hc

/-- The database gives a transaction up only for a write that needs an id when none is left. -/
theorem full_of_endsTransaction {c : HandleCall Interface} {f : Failure}
    (h : (c.effect store now before m).1 = .error f) (hf : f.endsTransaction = true)
    (hc : c.writes = true) : ∃ t, m.phase.tables? = some t ∧ t.Full := by
  cases c with
  | ensure i =>
    obtain ⟨u, t, ht, hrun⟩ := Progress.exists_of_guarded_ends (i.checkKeys_keeps _) h hf
    rw [Change.outcome_map, Change.outcome_ensure, Change.upsert, Change.outcome_statement,
      Except.map_eq_error, Tables.map_upsertInterface] at hrun
    have hexhausted := DatabaseProblem.eq_idsExhausted_of_statement hrun hf
    exact ⟨t, ht, .inl (Tables.last_of_accepts_exhausted hexhausted)⟩
  | append i operation state dirty message =>
    obtain ⟨names, t, ht, hrun⟩ :=
      Progress.exists_of_guarded_ends (History.checkNamed_keeps now operation state) h hf
    rw [Change.outcome_map, Change.append, Change.outcome_map, Change.outcome_statement,
      Except.map_eq_error, Except.map_eq_error, Tables.map_appendLog] at hrun
    have hexhausted := DatabaseProblem.eq_idsExhausted_of_statement hrun hf
    exact ⟨t, ht, .inr (Tables.last_of_nextLogId_exhausted hexhausted)⟩
  | _ => cases hc

/-- A step does what its effect says, and assigns to the interface that it was given only if it has
stored it. -/
lemma exec_perform {s₀ s : StoreState} {h : Handle} (hk : s₀.store.key.length = SecretBox.keySize)
    (c : HandleCall Interface) (hs : At s₀ h m s) :
    ∃ s', exec (c.perform h) s =
        (.ok ((c.effect s₀.store s₀.now s₀.connection.durable m).1,
          c.heldAfter (c.effect s₀.store s₀.now s₀.connection.durable m).1), s') ∧
      At s₀ h (c.effect s₀.store s₀.now s₀.connection.durable m).2 s' := by
  by_cases hens : ∃ i, c = .ensure i
  · obtain ⟨i, rfl⟩ := hens
    obtain ⟨s', hs', hat⟩ := @exec_ensureHeldIn s₀ h _ m ⟨s, i⟩ (leads_ensure hk i m) hs
    rw [effect, Progress.guarded_map]
    refine ⟨s', ?_, hat⟩
    rw [perform, exec_map, HeldM.exec_holding, hs']
    generalize (m.guarded _ _ _ _).1 = outcome
    cases outcome <;> rfl
  · have hne : ∀ i, c ≠ .ensure i := fun i h => hens ⟨i, h⟩
    obtain ⟨s', hs', hat⟩ := (leads_step hk c m).attempt s hs
    have hrun : ∀ held : Option Interface,
        exec (do return (← StoreM.attempt (c.run h), held)) s =
          (.ok ((c.effect s₀.store s₀.now s₀.connection.durable m).1, held), s') := by
      intro held
      rw [exec_map, hs']
      rfl
    refine ⟨s', ?_, hat⟩
    rw [heldAfter_of_ne hne]
    cases c with
    | ensure i => exact absurd rfl (hne i)
    | _ => exact hrun _

end HandleCall

/-! ## Whole writes -/

namespace Tables

/-- The tables are sound, and what they hold has the property `W`. -/
def HoldsOnly (key : Bytes) (W : Interface → Prop) (t : Tables) : Prop :=
  t.Sound key ∧ ∀ b, t.Holds key b → W b

end Tables

namespace HandleCall

variable {store : Store} {now : Int} {before : Tables} {m : Progress} {W : Interface → Prop}

lemma outcome_effect_of_store {i : Interface} {t t' : Tables} {id : Int}
    (hp : m.phase.tables? = some t) (h : (Change.store store now m.entropy i).run t = .ok (id, t')) :
    ((ensure i).effect store now before m).1 = .ok (.id id) := by
  obtain ⟨u, hcheck, hensure⟩ := Change.run_guarded_eq_ok h
  rw [effect, hcheck, Progress.guarded_map, Progress.guarded,
    Progress.apply_of_ok (m := { m with entropy := m.entropy.skip 2 }) hp hensure]
  rfl

/-- A step puts only the interface that it stores into the tables, as it was given. -/
lemma holdsOnly_effect (hk : store.key.length = SecretBox.keySize)
    (hbefore : before.HoldsOnly store.key W) (c : HandleCall Interface)
    (hc : ∀ i id, c = .ensure i → (c.effect store now before m).1 = .ok (.id id) → W { i with id })
    (hm : m.phase.All (Tables.HoldsOnly store.key W)) :
    (c.effect store now before m).2.phase.All (Tables.HoldsOnly store.key W) := by
  refine c.all_effect (P := fun _ : List Empty => Tables.HoldsOnly store.key W) (l := []) hbefore
    (fun _ => []) (fun _ => rfl) (fun _ _ => rfl) ?_ ?_ hm
  case refine_1 =>
    rintro i rfl t t' id hp ht hstore
    have houtcome : ((ensure i).effect store now before m).1 = .ok (.id id) :=
      outcome_effect_of_store hp hstore
    have hwrote := (ht.1.wrote hstore).1
    refine ⟨hwrote.sound, fun b hb => ?_⟩
    rcases ((hwrote.effect hk).holds b).mp hb with rfl | ⟨-, hold⟩
    · exact hc i id rfl houtcome
    · exact ht.2 b hold
  case refine_2 =>
    rintro i operation state dirty message rfl t t' names e - ht hclock happend
    have hlogged := ht.1.logged hclock happend
    exact ⟨hlogged.sound, fun b hb => ht.2 b ((hlogged.holds b).mp hb)⟩

end HandleCall

namespace Callback

variable {α : Type} {store : Store} {now : Int} {before : Tables} {W : Interface → Prop}

lemma holdsOnly_course (hk : store.key.length = SecretBox.keySize)
    (hbefore : before.HoldsOnly store.key W) (callback : Callback α) {m : Progress}
    (hsteps : ∀ i m' id, (HandleCall.ensure i, m') ∈ callback.steps store now before m →
      ((HandleCall.ensure i).effect store now before m').1 = .ok (.id id) → W { i with id })
    (hm : m.phase.All (Tables.HoldsOnly store.key W)) :
    (callback.course store now before m).2.phase.All (Tables.HoldsOnly store.key W) := by
  induction callback generalizing m with
  | done a => exact hm
  | fail f => exact hm
  | step c next ih =>
    have hfirst : ∀ i id, c = .ensure i → (c.effect store now before m).1 = .ok (.id id) →
        W { i with id } := by
      rintro i id rfl houtcome
      exact hsteps i m id List.mem_cons_self houtcome
    exact ih _ (fun i m' id hmem => hsteps i m' id (List.mem_cons_of_mem _ hmem))
      (HandleCall.holdsOnly_effect hk hbefore c hfirst hm)

end Callback

namespace Site

variable {α : Type} {w : Site} {h : Handle} {s : StoreState}

/-- A state in a block that begins now: steps on its handle lead there. -/
inductive InBlock (w : Site) (h : Handle) : StoreState → Prop
  | begun {write : Bool} {s : StoreState} :
    MeshAgent.exec (begin_ write) w.state = (.ok h, s) → InBlock w h s
  | step {s : StoreState} (c : HandleCall Interface) : InBlock w h s →
    InBlock w h (MeshAgent.exec (c.run h) s).2

lemma InBlock.exists_at (hw : w.Steady) (hs : w.InBlock h s) : ∃ m, At w.state h m s := by
  induction hs with
  | @begun write s hbegin =>
    by_cases hopen : w.IsOpen
    · obtain ⟨s', hs', hat⟩ := exec_begin hw.idle hopen write
      rw [hs'] at hbegin
      obtain ⟨hh, rfl⟩ := Prod.mk.inj hbegin
      rw [← Except.ok.inj hh]
      exact ⟨_, hat⟩
    · rw [exec_begin_of_closed (closed_of_not_isOpen hopen)] at hbegin
      exact nomatch (Prod.mk.inj hbegin).1
  | step c _ ih =>
    obtain ⟨m, hat⟩ := ih
    obtain ⟨s', hs', hat'⟩ := leads_step hw.key c m _ hat
    rw [hs']
    exact ⟨_, hat'⟩

/-- `b` is whole: it was there before a block that begins now, or it is the interface that a step of the
callback has stored, under the id that the step has answered. -/
def Whole (w : Site) (callback : Callback α) (b : Interface) : Prop :=
  w.tables.Holds w.mounted.store.key b ∨
    ∃ i m, (HandleCall.ensure i, m) ∈ callback.steps w.mounted.store w.host.now w.tables
        ⟨.underWay w.tables, w.host.entropy⟩ ∧
      ((HandleCall.ensure i).effect w.mounted.store w.host.now w.tables m).1 = .ok (.id b.id) ∧
      b = { i with id := b.id }

lemma Reachable.holdsOnly (hw : Reachable w) (callback : Callback α) :
    w.tables.HoldsOnly w.mounted.store.key (w.Whole callback) :=
  ⟨hw.spec.2, fun _ hb => .inl hb⟩

lemma holdsOnly_course (hw : Reachable w) (callback : Callback α) :
    (w.course callback).2.phase.All
      (Tables.HoldsOnly w.mounted.store.key (w.Whole callback)) := by
  have hbefore := hw.holdsOnly callback
  exact callback.holdsOnly_course hw.spec.1.key hbefore
    (fun i m id hmem houtcome => .inr ⟨i, m, hmem, houtcome, rfl⟩) hbefore

/-- At every point of a block, also after its handle has finished, a write that fails leaves the
interface that it was given alone, and the database with everything that is not committed; only if all
ids are used up it rolls back what is not committed. And whatever a callback makes of such failures, its
block leaves nothing but whole interfaces: those that were there, and those that its steps have stored,
each with all its peers. -/
theorem failing_step_changes_nothing (hw : Reachable w) :
    (∀ h s, w.InBlock h s → ∀ c : HandleCall Interface, c.writes = true →
      ∃ outcome held s', MeshAgent.exec (c.perform h) s = (.ok (outcome, held), s') ∧
        ∀ f, outcome = .error f → held = c.iface? ∧
          s'.connection =
            (if f.endsTransaction then { s.connection with working := none }
              else s.connection) ∧
          (f.endsTransaction = true → s.connection.tables.Full)) ∧
    (∀ {α : Type} (i : Interface) (callback : Option Entry → Callback α) (b : Interface),
      (w.withLog i callback).2.tables.Holds w.mounted.store.key b →
      w.tables.Holds w.mounted.store.key b ∨
        ∃ last, w.tables.newest i = .ok last ∧ w.Whole (callback last) b) ∧
    ∀ {α : Type} (write : Bool) (callback : Callback α) (b : Interface),
      (w.transaction write callback).2.tables.Holds w.mounted.store.key b →
      w.Whole callback b := by
  have hsteady := hw.spec.1
  refine ⟨fun h s hs c hc => ?_, fun i callback b hb => ?_, fun write callback b hb => ?_⟩
  · obtain ⟨m, hat⟩ := hs.exists_at hsteady
    obtain ⟨s', hs', hat'⟩ := c.exec_perform hsteady.key hat
    refine ⟨_, _, s', hs', fun f hf => ?_⟩
    rw [hf, HandleCall.heldAfter_error, hat'.connection_eq,
      HandleCall.phase_effect_of_error hc hf, Phase.connection_refuse, ← hat.connection_eq]
    refine ⟨rfl, rfl, fun hend => ?_⟩
    obtain ⟨t, ht, hfull⟩ := HandleCall.full_of_endsTransaction hf hend hc
    rwa [hat.tables_connection ht]
  · by_cases hopen : w.IsOpen
    · obtain ⟨s, hs, hset⟩ := withLog_spec hsteady hopen i callback
      rw [hs, tables_leave hsteady, hset.durable, block] at hb
      cases hlast : w.tables.newest i with
      | error f =>
        rw [hlast] at hb
        exact .inl hb
      | ok last =>
        rw [hlast] at hb
        have hwhole := Progress.all_close (holdsOnly_course hw (callback last))
        exact .inr ⟨last, rfl, (hwhole.durable (hw.holdsOnly (callback last))).2 b hb⟩
    · rw [withLog_of_closed hopen, tables_leave hsteady] at hb
      exact .inl hb
  · by_cases hopen : w.IsOpen
    · obtain ⟨s, hs, hset⟩ := transaction_spec hsteady hopen write callback
      rw [hs, tables_leave hsteady, hset.durable] at hb
      exact ((holdsOnly_course hw callback).durable (hw.holdsOnly callback)).2 b hb
    · rw [transaction_of_closed hopen, tables_leave hsteady] at hb
      exact .inl hb

/-- A second interface with the same device id cannot be stored: the first one, which is not committed,
stays as it is with its peer. -/
theorem failing_step_changes_nothing_of_conflict :
    let key : Bytes := List.replicate Key.size 0
    let addr : Address := .v4 ⟨0, Address.fullPrefix4⟩
    let device : Device := { id := "a", name := "a", addr, publicKey := key }
    let i : Interface :=
      { apiUrl := "", network := ⟨"", "", addr⟩, device, key, deviceToken := [], peers := [device] }
    let j : Interface := { i with device := { device with name := "b" }, peers := [] }
    let s : StoreState := (MeshAgent.exec ((HandleCall.ensure i).run 0)
      (MeshAgent.exec (begin_ true) blank.state).2).2
    ∃ f s', MeshAgent.exec ((HandleCall.ensure j).perform 0) s = (.ok (.error f, some j), s') ∧
      s'.connection = s.connection := by
  intro key addr device i j s
  have hs : blank.InBlock 0 s := .step (HandleCall.ensure i) (@InBlock.begun _ 0 true _ rfl)
  obtain ⟨outcome, held, s', hexec, hkeeps⟩ :=
    (failing_step_changes_nothing reachable_blank).1 0 s hs (.ensure j) rfl
  have hrefused : ((MeshAgent.exec ((HandleCall.ensure j).perform 0) s).1.toOption.map fun ended =>
      (ended.1.mapError Failure.endsTransaction).map fun _ => ()) = some (.error false) := by
    decide +kernel
  rw [hexec] at hrefused
  cases outcome with
  | ok answer => cases hrefused
  | error f =>
    obtain ⟨rfl, hconnection, -⟩ := hkeeps f rfl
    have hkept : f.endsTransaction = false := Except.error.inj (Option.some.inj hrefused)
    rw [hkept, if_neg Bool.false_ne_true] at hconnection
    exact ⟨f, s', hexec, hconnection⟩

/-- An interface has been stored under the largest id. Another one, which needs an id, cannot be stored,
and with that the first one is gone, too. -/
theorem failing_step_drops_what_is_not_committed :
    let key : Bytes := List.replicate Key.size 0
    let addr : Address := .v4 ⟨0, Address.fullPrefix4⟩
    let i : Interface :=
      { id := maxInteger, apiUrl := "", network := ⟨"", "", addr⟩
        device := { id := "", name := "", addr, publicKey := key }, key, deviceToken := [] }
    let j : Interface :=
      { i with id := 0, device := { i.device with id := "b", name := "b", publicKey := 1 :: key.tail } }
    let s : StoreState := (MeshAgent.exec ((HandleCall.ensure i).run 0)
      (MeshAgent.exec (begin_ true) blank.state).2).2
    let r := MeshAgent.exec ((HandleCall.ensure j).perform 0) s
    Reachable blank ∧ blank.InBlock 0 s ∧ (r.1.toOption.map fun ended => ended.1.isOk) = some false ∧
      s.connection.tables.interfaces.length = 1 ∧ r.2.connection.tables.interfaces.length = 0 := by
  intro key addr i j s r
  have hs : blank.InBlock 0 s := .step (HandleCall.ensure i) (@InBlock.begun _ 0 true _ rfl)
  refine ⟨reachable_blank, hs, ?_⟩
  decide +kernel

end Site

end MeshAgent
