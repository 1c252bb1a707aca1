import MeshAgent.Proofs.Home.Convergence
import MeshAgent.Proofs.Home.Status

/-!
# Device tokens

A refresh that delivers no token stores the one of the interface that it was handed. That is the
stored token as long as nobody hands over an interface from before a newer token; then, along a whole
run, the stored token is the last one that was delivered and is not empty.
-/
namespace MeshAgent

/-- The last of the tokens that is not empty, or `first` if they all are. -/
def lastToken (first : Bytes) (tokens : List Bytes) : Bytes :=
  (tokens.filter fun t => t ≠ []).getLast?.getD first

lemma lastToken_append (first : Bytes) (ts ts' : List Bytes) :
    lastToken first (ts ++ ts') = lastToken (lastToken first ts) ts' := by
  simp only [lastToken, List.filter_append, List.getLast?_append]
  cases (ts'.filter fun t => t ≠ []).getLast? <;> rfl

lemma lastToken_singleton (first t : Bytes) :
    lastToken first [t] = if t = [] then first else t := by
  by_cases ht : t = [] <;> simp [lastToken, ht]

namespace Tables

variable {key : Bytes} {t t' : Tables} {id : Int}

/-- A write replaces the interface that it was handed the id of, or takes an id that is free. -/
lemma Sound.id_of_store {s : Store} {now : Int} {e : Entropy} {i : Interface} (ht : t.Sound key)
    (h : (Change.store s now e i).run t = .ok (id, t')) :
    id = i.id ∨ ∀ r ∈ t.interfaces, r.id ≠ id := by
  obtain ⟨-, -, t₁, hup, -⟩ := Change.store_eq_ok h
  obtain ⟨hid, -, -⟩ := upsertInterface_eq_ok hup
  by_cases hpos : 0 < i.id
  · rw [Interface.givenId, if_pos hpos, idFor, Except.ok.injEq] at hid
    exact Or.inl hid.symm
  · rw [Interface.givenId, if_neg hpos, idFor] at hid
    split at hid
    · simp at hid
    · rw [Except.ok.injEq] at hid
      refine Or.inr fun r hr heq => ?_
      have hle := ht.le_last r hr
      omega

end Tables

/-- An operation of an agent that stores an interface has written it under the id that it answers. -/
lemma Change.store_of_record {β : Type} {check : Except Failure β} {s : Store} {now : Int}
    {e : Entropy} {i a : Interface} {operation : Operation} {state : State} {message : String}
    {t t' : Tables}
    (h : (guarded check fun _ => logged i fun _ => record s now e i operation state message).run t =
      .ok (a, t')) :
    ∃ t₁, (store s now e i).run t = .ok (a.id, t₁) := by
  obtain ⟨-, -, hlogged⟩ := run_guarded_eq_ok h
  obtain ⟨-, -, hrecord⟩ := run_logged_eq_ok hlogged
  obtain ⟨id, t₁, -, hstore, -, -, rfl⟩ := run_record_eq_ok hrecord
  exact ⟨t₁, hstore⟩

namespace Call

open Change

variable {config : Config} {s : Store} {now : Int} {e : Entropy} {t : Tables} {a : Interface}

/-- A call that writes an interface which is there already was handed one with its id. -/
lemma exists_iface_of_written {c : Call Interface} (ht : t.Sound s.key)
    (h : c.written? config ((c.change config s now e).outcome t) = some a)
    (hthere : ∃ r ∈ t.interfaces, r.id = a.id) : ∃ i, c.iface? = some i ∧ i.id = a.id := by
  have hold : ∀ {i : Interface} {id : Int} {t₁ : Tables},
      (store s now e i).run t = .ok (id, t₁) → id = a.id → i.id = a.id := by
    intro i id t₁ hstore hid
    obtain ⟨r, hr, hrid⟩ := hthere
    rcases ht.id_of_store hstore with hgiven | hfree
    · exact hgiven.symm.trans hid
    · exact absurd (hrid.trans hid.symm) (hfree r hr)
  cases hrun : (c.change config s now e).run t with
  | error f =>
    rw [outcome_of_error hrun, written?_error] at h
    simp at h
  | ok r =>
    obtain ⟨answer, t'⟩ := r
    rw [outcome_of_ok hrun] at h
    cases c with
    | ensure i =>
      obtain ⟨id, hstore, rfl⟩ := run_map_eq_ok hrun
      obtain rfl : { i with id } = a := by simpa [written?] using h
      exact ⟨i, rfl, hold hstore rfl⟩
    | join apiUrl privateKey listenPort response message =>
      obtain ⟨b, hrecord, rfl⟩ := run_map_eq_ok hrun
      obtain ⟨t₁, hstore⟩ := store_of_record hrecord
      -- a join hands over the id 0, which is never stored
      have hzero := hold hstore (by rw [← Option.some.inj h])
      obtain ⟨r, hr, hrid⟩ := hthere
      have hpos := ht.pos r hr
      rw [hrid, ← hzero] at hpos
      exact absurd hpos (Int.lt_irrefl 0)
    | refresh i response message =>
      obtain ⟨b, hrecord, rfl⟩ := run_map_eq_ok hrun
      obtain ⟨t₁, hstore⟩ := store_of_record hrecord
      have hsame := hold hstore (by rw [← Option.some.inj h])
      exact ⟨i, rfl, hsame⟩
    | _ => simp [written?] at h

end Call

/-- The token that the event at the site `w` has delivered for an interface, if it is a refresh that
has succeeded. -/
def Event.delivered? (w : Site) (id : Int) : Event → Option Bytes
  | .call config (.refresh i response message) =>
    if i.id = id ∧ (w.call config (.refresh i response message)).1.isOk then some response.token
    else none
  | _ => none

/-- The interface that an event hands over. -/
def Event.handed? : Event → Option Interface
  | .call _ c => c.iface?
  | _ => none

namespace Site

variable {w : Site} {id : Int} {token : Bytes}

/-- The token that is stored for an interface. -/
def Stores (w : Site) (id : Int) (token : Bytes) : Prop :=
  ∃ a, w.tables.Holds w.mounted.store.key a ∧ a.id = id ∧ a.deviceToken = token

/-- The tokens that a run delivers for an interface, in their order. -/
def delivered (id : Int) : Site → List Event → List Bytes
  | _, [] => []
  | w, e :: es => (e.delivered? w id).toList ++ delivered id (w.step e) es

/-- Whenever a refresh in a run delivers no token, the interface that it is handed carries the stored
one. -/
def HandsCurrent (id : Int) : Site → List Event → Prop
  | _, [] => True
  | w, e :: es =>
    (e.delivered? w id = some [] → ∀ i, e.handed? = some i → w.Stores id i.deviceToken) ∧
      HandsCurrent id (w.step e) es

/-- What a call does to the tables of a site is what its answer says. -/
lemma effect_call (hw : w.Steady) (hsound : w.tables.Sound w.mounted.store.key) (config : Config)
    (c : Call Interface) :
    Tables.Effect w.mounted.store.key w.tables (c.written? config (w.call config c).1)
      (c.recorded? (w.call config c).1) (w.call config c).2.tables := by
  by_cases hopen : w.IsOpen
  · obtain ⟨w', hexec, -, -, -, -, -, htables⟩ := exec_perform_spec hw hopen config c rfl
    rw [call, hexec]
    dsimp only
    rw [htables]
    exact c.effect config hw.key w.host.now w.host.entropy hsound
  · obtain ⟨hexec, -, htables⟩ := exec_perform_of_closed hw hopen config c
    rw [call, hexec, Call.written?_error, Call.recorded?_error]
    dsimp only
    rw [htables]
    exact Tables.Effect.none hsound

/-- A write of an interface that is there already was handed one with its id. -/
lemma exists_iface_of_written (hw : w.Steady) (hsound : w.tables.Sound w.mounted.store.key)
    {config : Config} {c : Call Interface} {a : Interface}
    (h : c.written? config (w.call config c).1 = some a)
    (hthere : ∃ r ∈ w.tables.interfaces, r.id = a.id) : ∃ i, c.iface? = some i ∧ i.id = a.id := by
  by_cases hopen : w.IsOpen
  · rw [call_eq_of_isOpen hw hopen] at h
    exact Call.exists_iface_of_written hsound h hthere
  · obtain ⟨hexec, -⟩ := exec_perform_of_closed hw hopen config c
    rw [call, hexec, Call.written?_error] at h
    simp at h

variable {config : Config} {c : Call Interface}

lemma stores_written (hw : w.Steady) (hsound : w.tables.Sound w.mounted.store.key) {b : Interface}
    (h : c.written? config (w.call config c).1 = some b) :
    (w.call config c).2.Stores b.id b.deviceToken := by
  have heffect := effect_call hw hsound config c
  rw [h] at heffect
  refine ⟨b, ?_, rfl, rfl⟩
  rw [(kept_call hw config c).store]
  exact (heffect.holds b).mpr (Or.inl rfl)

lemma stores_of_not_written (hw : w.Steady) (hsound : w.tables.Sound w.mounted.store.key)
    (hs : w.Stores id token)
    (h : ∀ b, c.written? config (w.call config c).1 = some b → b.id ≠ id) :
    (w.call config c).2.Stores id token := by
  have heffect := effect_call hw hsound config c
  obtain ⟨a, ha, hid, htoken⟩ := hs
  refine ⟨a, ?_, hid, htoken⟩
  rw [(kept_call hw config c).store, heffect.holds a]
  cases hwritten : c.written? config (w.call config c).1 with
  | none => exact ha
  | some b => exact Or.inr ⟨fun heq => h b hwritten (heq ▸ hid), ha⟩

lemma hasRow_of_stores (hs : w.Stores id token) : ∃ r ∈ w.tables.interfaces, r.id = id := by
  obtain ⟨a, ⟨r, hr, hstores⟩, hid, -⟩ := hs
  exact ⟨r, hr, hstores.id.trans hid⟩

/-- A refresh stores the token that it delivers, or else the one that it was handed. -/
lemma stores_refresh (hw : w.Steady) (hsound : w.tables.Sound w.mounted.store.key)
    {i a : Interface} {response : JoinResponse} {message : String}
    (h : (w.call config (.refresh i response message)).1 = .ok (.interface a)) :
    (w.call config (.refresh i response message)).2.Stores a.id
      (if response.token = [] then i.deviceToken else response.token) := by
  have hwritten : (Call.refresh i response message).written? config
      (w.call config (.refresh i response message)).1 =
        some { Agent.refreshed i response with id := a.id } := by rw [h]; rfl
  exact stores_written hw hsound hwritten

lemma Stores.unique (hw : w.Steady) (hsound : w.tables.Sound w.mounted.store.key)
    {token' : Bytes} (hs : w.Stores id token) (hs' : w.Stores id token') : token = token' := by
  obtain ⟨a, ha, haid, rfl⟩ := hs
  obtain ⟨b, hb, hbid, rfl⟩ := hs'
  rw [hsound.holds_unique hw.key ha hb (haid.trans hbid.symm)]

/-- A refresh of an interface that has an id answers an interface with this id. -/
lemma answer_refresh (hw : w.Steady) (hsound : w.tables.Sound w.mounted.store.key)
    {i : Interface} {response : JoinResponse} {message : String} {answer : Answer} (hpos : 0 < i.id)
    (h : (w.call config (.refresh i response message)).1 = .ok answer) :
    ∃ a, answer = .interface a ∧ a.id = i.id := by
  have hopen := isOpen_of_call_eq_ok hw h
  rw [call_eq_of_isOpen hw hopen] at h
  obtain ⟨a, hrecord, rfl⟩ := Change.run_map_eq_ok (Change.outcome_eq_ok h)
  obtain ⟨-, -, hlogged⟩ := Change.run_guarded_eq_ok hrecord
  obtain ⟨-, -, hrecord⟩ := Change.run_logged_eq_ok hlogged
  obtain ⟨-, -, -, -, -, -, hid⟩ := Change.record_eq_ok hsound hrecord
  exact ⟨a, rfl, hid hpos⟩

/-- What a call makes of the stored token of an interface that it does not overwrite as a whole. -/
lemma stores_call (hw : w.Steady) (hsound : w.tables.Sound w.mounted.store.key)
    (hs : w.Stores id token) (honly : ∀ i, c = .ensure i → i.id ≠ id)
    (hcurrent : (Event.call config c).delivered? w id = some [] → ∀ i, c.iface? = some i →
      w.Stores id i.deviceToken) :
    (w.call config c).2.Stores id
      (lastToken token ((Event.call config c).delivered? w id).toList) := by
  have hkept : (∀ i, c.iface? = some i → i.id ≠ id) → (w.call config c).2.Stores id token := by
    refine fun hother => stores_of_not_written hw hsound hs fun b hb hid => ?_
    obtain ⟨i, hi, hsame⟩ := exists_iface_of_written hw hsound hb (hid ▸ hasRow_of_stores hs)
    exact hother i hi (hsame.trans hid)
  have hsilent : (∀ answer, c.written? config answer = none) →
      (w.call config c).2.Stores id token := fun hnone =>
    stores_of_not_written hw hsound hs fun b hb => by simp [hnone] at hb
  cases c with
  | refresh i response message =>
    by_cases hid : i.id = id
    · cases hcall : (w.call config (.refresh i response message)).1 with
      | error f =>
        have hnone : (Event.call config (.refresh i response message)).delivered? w id = none := by
          simp [Event.delivered?, hcall, Except.isOk, Except.toBool]
        rw [hnone]
        refine stores_of_not_written hw hsound hs fun b hb => ?_
        rw [hcall, Call.written?_error] at hb
        simp at hb
      | ok answer =>
        have hsome : (Event.call config (.refresh i response message)).delivered? w id =
            some response.token := by
          simp [Event.delivered?, hcall, hid, Except.isOk, Except.toBool]
        obtain ⟨r, hr, hrid⟩ := hasRow_of_stores hs
        have hpos : 0 < i.id := by rw [hid, ← hrid]; exact hsound.pos r hr
        obtain ⟨a, rfl, haid⟩ := answer_refresh hw hsound hpos hcall
        have hstored := stores_refresh hw hsound hcall
        rw [haid, hid] at hstored
        rw [hsome, Option.toList_some, lastToken_singleton]
        by_cases hempty : response.token = []
        · rw [if_pos hempty] at hstored ⊢
          rw [hempty] at hsome
          rwa [hs.unique hw hsound (hcurrent hsome i rfl)]
        · rwa [if_neg hempty] at hstored ⊢
    · have hnone : (Event.call config (.refresh i response message)).delivered? w id = none :=
        if_neg fun h => hid h.1
      rw [hnone]
      exact hkept fun j hj => Option.some.inj hj ▸ hid
  | ensure i => exact hkept fun j hj => Option.some.inj hj ▸ honly i rfl
  | join apiUrl privateKey listenPort response message =>
    exact hkept fun j hj => by simp [Call.iface?] at hj
  | _ => exact hsilent fun answer => by cases answer <;> rfl

/-- The only events of a run that write the interface are refreshes. -/
def OnlyRefreshed (id : Int) (es : List Event) : Prop :=
  ∀ config i, .call config (.ensure i) ∈ es → i.id ≠ id

/-- One event. -/
lemma stores_step (hw : w.Steady) (hsound : w.tables.Sound w.mounted.store.key)
    (hs : w.Stores id token) {e : Event} (honly : ∀ config i, e = .call config (.ensure i) → i.id ≠ id)
    (hcurrent : e.delivered? w id = some [] → ∀ i, e.handed? = some i → w.Stores id i.deviceToken)
    (hfile : w.mounted.place.isSome ∨ e ≠ .reopen) :
    (w.step e).Stores id (lastToken token (e.delivered? w id).toList) := by
  have hsame : ∀ w' : Site, w'.mounted.store = w.mounted.store → w'.tables = w.tables →
      w'.Stores id token := by
    intro w' hstore htables
    rw [Stores, hstore, htables]
    exact hs
  cases e with
  | call config c => exact stores_call hw hsound hs (fun i hi => honly config i (hi ▸ rfl)) hcurrent
  | close =>
    obtain ⟨-, hstore, -, htables⟩ := close_spec hw
    exact hsame _ hstore htables
  | reopen =>
    have hsome : w.mounted.place.isSome = true := by simpa using hfile
    obtain ⟨-, hstore, -, htables⟩ := reopen_spec hw
    rw [if_pos hsome] at htables
    exact hsame _ hstore htables
  | setClock now => exact hsame _ rfl rfl

lemma act_event (w : Site) (e : Event) : (w.act (.event e)).2 = w.step e := by cases e <;> rfl

/-- A whole run, as long as the tables outlast the connection. -/
lemma stores_run (hw : Reachable w) (hs : w.Stores id token) {es : List Event}
    (honly : OnlyRefreshed id es) (hcurrent : w.HandsCurrent id es)
    (hfile : w.mounted.place.isSome ∨ .reopen ∉ es) :
    (w.run es).Stores id (lastToken token (w.delivered id es)) := by
  induction es generalizing w token with
  | nil => exact hs
  | cons e es ih =>
    have hfirst : w.mounted.place.isSome ∨ e ≠ .reopen :=
      hfile.imp_right fun hnot heq => hnot (heq ▸ List.mem_cons_self)
    have hstep := stores_step hw.spec.1 hw.spec.2 hs
      (fun config i he => honly config i (he ▸ List.mem_cons_self)) hcurrent.1 hfirst
    have hreachable := act_event w e ▸ reachable_act hw (.event e)
    have hact : w.mounted.place.isSome ∨ Action.event e ≠ .event .reopen :=
      hfirst.imp_right (by simpa using ·)
    have hplace : (w.step e).mounted.place = w.mounted.place :=
      act_event w e ▸ (advances_act hw.spec.1 hact).place
    rw [delivered, lastToken_append]
    refine ih hreachable hstep (fun config i hi => honly config i (List.mem_cons_of_mem _ hi))
      hcurrent.2 ?_
    rw [hplace]
    exact hfile.imp_right fun hnot hmem => hnot (List.mem_cons_of_mem _ hmem)

/-- What refreshes do to the tokens of a site. -/
structure KeepsTokens (w : Site) : Prop where
  /-- A refresh that delivers a token stores it; one that delivers none stores the token of the
  interface that it is handed. -/
  refreshed : ∀ config i response message answer token, w.Stores i.id token →
    (w.call config (.refresh i response message)).1 = .ok answer →
    (w.call config (.refresh i response message)).2.Stores i.id
      (if response.token = [] then i.deviceToken else response.token)
  /-- So a refresh that delivers none keeps the stored token exactly if it is handed an interface that
  carries it. -/
  kept_iff : ∀ config i response message answer token, w.Stores i.id token →
    (w.call config (.refresh i response message)).1 = .ok answer → response.token = [] →
    ((w.call config (.refresh i response message)).2.Stores i.id token ↔ i.deviceToken = token)
  /-- From a join on, the stored token is the last one that was delivered and is not empty, as long as
  refreshes that deliver none are handed interfaces that carry it. -/
  joined : ∀ config apiUrl privateKey listenPort response message a es,
    let call := w.call config (.join apiUrl privateKey listenPort response message)
    call.1 = .ok (.interface a) → OnlyRefreshed a.id es → call.2.HandsCurrent a.id es →
    (w.mounted.place.isSome ∨ .reopen ∉ es) →
    (call.2.run es).Stores a.id (lastToken response.token (call.2.delivered a.id es))

theorem keepsTokens (hw : Reachable w) : w.KeepsTokens := by
  obtain ⟨hsteady, hsound⟩ := hw.spec
  have hrefreshed : ∀ config i response message answer token, w.Stores i.id token →
      (w.call config (.refresh i response message)).1 = .ok answer →
      (w.call config (.refresh i response message)).2.Stores i.id
        (if response.token = [] then i.deviceToken else response.token) := by
    intro config i response message answer token hs hcall
    obtain ⟨r, hr, hrid⟩ := hasRow_of_stores hs
    obtain ⟨a, rfl, haid⟩ := answer_refresh hsteady hsound (hrid ▸ hsound.pos r hr) hcall
    exact haid ▸ stores_refresh hsteady hsound hcall
  constructor
  case refreshed => exact hrefreshed
  case kept_iff =>
    intro config i response message answer token hs hcall hempty
    have hstored := hrefreshed config i response message answer token hs hcall
    rw [if_pos hempty] at hstored
    have hafter := (Reachable.call config (.refresh i response message) hw).spec
    exact ⟨fun hkept => hstored.unique hafter.1 hafter.2 hkept, fun heq => heq ▸ hstored⟩
  case joined =>
    intro config apiUrl privateKey listenPort response message a es call hcall honly hcurrent hfile
    have hwritten : (Call.join apiUrl privateKey listenPort response message).written? config call.1 =
        some { Agent.joined config apiUrl privateKey listenPort response with id := a.id } := by
      rw [hcall]
      rfl
    have hstored : call.2.Stores a.id response.token := stores_written hsteady hsound hwritten
    have hplace : call.2.mounted.place = w.mounted.place := (advances_call hsteady config _).place
    exact stores_run (hw.call config _) hstored honly hcurrent (hplace ▸ hfile)

/-- What a control plane answers with the given token, and the interface that the join makes of it. -/
def replyWith (token : Bytes) : JoinResponse :=
  let addr : Address := .v4 ⟨0, Address.fullPrefix4⟩
  { network := ⟨"", "", addr⟩, token
    device := { id := "", name := "", addr, publicKey := List.replicate Key.size 0 } }

def joinedFirst : Interface :=
  { Agent.joined {} none (List.replicate Key.size 0) none (replyWith [1]) with id := 1 }

/-- The store once the interface has been joined. -/
def joinedOnce : Site :=
  (blank.call {} (.join none (List.replicate Key.size 0) none (replyWith [1]) "")).2

lemma reachable_joinedOnce : Reachable joinedOnce := reachable_blank.call _ _

lemma stores_of_answer (hw : Reachable w) {config : Config} {a : Interface}
    (h : (w.call config (.interface a.id)).1.toOption = some (.interface a)) :
    w.Stores a.id a.deviceToken := by
  have hhas : w.Has config a := eq_ok_of_toOption h
  have hopen := isOpen_of_call_eq_ok hw.spec.1 hhas
  exact ⟨a, (has_iff hw.spec.1 hopen hw.spec.2 config a).mp hhas, rfl, rfl⟩

/-- A newer token is delivered after the join. A refresh that delivers none keeps it when it is handed
the interface from after that. -/
theorem keepsTokens_of_rotated :
    let second : Interface := { joinedFirst with deviceToken := [2] }
    let es : List Event :=
      [.call {} (.refresh joinedFirst (replyWith [2]) ""),
        .call {} (.refresh second (replyWith []) "")]
    (joinedOnce.run es).Stores 1 [2] := by
  intro second es
  have hcall : (blank.call {} (.join none (List.replicate Key.size 0) none (replyWith [1]) "")).1 =
      .ok (.interface joinedFirst) := eq_ok_of_toOption (by decide +kernel)
  have honly : OnlyRefreshed joinedFirst.id es := by
    intro config i hi
    simp [es] at hi
  have hcurrent : joinedOnce.HandsCurrent joinedFirst.id es := by
    refine ⟨fun h => ?_, fun _ i hi => ?_, trivial⟩
    · have hdelivered : (Event.call {} (.refresh joinedFirst (replyWith [2]) "")).delivered? joinedOnce
          joinedFirst.id = some [2] := by decide +kernel
      rw [hdelivered] at h
      simp at h
    · obtain rfl : second = i := Option.some.inj hi
      exact @stores_of_answer _ (reachable_joinedOnce.call _ _) {} second (by decide +kernel)
  have hdelivered : joinedOnce.delivered joinedFirst.id es = [[2], []] := by decide +kernel
  have hlast := (keepsTokens reachable_blank).joined {} none (List.replicate Key.size 0) none
    (replyWith [1]) "" joinedFirst es hcall honly hcurrent (.inr (by simp [es]))
  change (joinedOnce.run es).Stores joinedFirst.id
    (lastToken [1] (joinedOnce.delivered joinedFirst.id es)) at hlast
  rw [hdelivered] at hlast
  exact hlast

/-- A refresh that delivers no token, but is handed the interface from before a newer token was
delivered, puts the older token back. -/
theorem older_interface_restores_older_token :
    let w := (joinedOnce.call {} (.refresh joinedFirst (replyWith [2]) "")).2
    let call := w.call {} (.refresh joinedFirst (replyWith []) "")
    Reachable w ∧ w.Stores 1 [2] ∧ call.1.toOption = some (.interface joinedFirst) ∧
      call.2.Stores 1 [1] ∧ ¬ call.2.Stores 1 [2] := by
  intro w call
  have hw : Reachable w := reachable_joinedOnce.call _ _
  have hafter : Reachable call.2 := hw.call _ _
  have hnew : w.Stores 1 [2] :=
    @stores_of_answer w hw {} { joinedFirst with deviceToken := [2] } (by decide +kernel)
  have hold : call.2.Stores 1 [1] := @stores_of_answer call.2 hafter {} joinedFirst (by decide +kernel)
  refine ⟨hw, hnew, by decide +kernel, hold, fun h => ?_⟩
  have heq := hold.unique hafter.spec.1 hafter.spec.2 h
  simp at heq

end Site

end MeshAgent
