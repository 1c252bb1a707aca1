import MeshAgent.Proofs.Store.Sound

/-!
# Effects of calls

A call that succeeds may have written one interface and added one entry; apart from that it has left
everything as it was, and a call that fails has left everything as it was. Which interface and which
entry that is can be told from the call and its answer.
-/
namespace MeshAgent

namespace Call

/-- The interface that a call has written, under the id that it had or has got. -/
def written? (config : Config) : Call Interface → Except Failure Answer → Option Interface
  | ensure i, .ok (.id id) => some { i with id }
  | join apiUrl privateKey listenPort response _, .ok (.interface a) =>
    some { Agent.joined config apiUrl privateKey listenPort response with id := a.id }
  | refresh i response _, .ok (.interface a) => some { Agent.refreshed i response with id := a.id }
  | _, _ => none

/-- The id of the interface that a call has added an entry for, and whether the entry says that the
interface was applied. -/
def recorded? : Call Interface → Except Failure Answer → Option (Int × Bool)
  | join .., .ok (.interface a) => some (a.id, false)
  | refresh .., .ok (.interface a) => some (a.id, false)
  | applied i _, .ok _ => some (i.id, true)
  | failed i _ _, .ok _ => some (i.id, false)
  | _, _ => none

/-- The entry that a call has added at the time `now` under the id `id`, with the id of its interface.
A join and a refresh answer the interface; the entry that they add says which of the two it was. -/
def entered? (now id : Int) : Call Interface → Except Failure Answer → Option (Int × Entry)
  | join _ _ _ _ message, .ok (.interface a) =>
    some (a.id,
      { id, seconds := now.fdiv 1000000, operation := .join, state := .joined, dirty := true
        message := Agent.messageOr message ("joined network " ++ Text.quote a.network.name) })
  | refresh _ _ message, .ok (.interface a) =>
    some (a.id,
      { id, seconds := now.fdiv 1000000, operation := .refresh, state := .refreshed, dirty := true
        message := Agent.messageOr message ("refreshed " ++ shown a.peers.length ++ " peers") })
  | applied i _, .ok (.entry (some e)) => some (i.id, e)
  | failed i _ _, .ok (.entry (some e)) => some (i.id, e)
  | _, _ => none

/-- What the answer of a call tells of the interface that it has written, and of the entry that it has
added at the time `now` under the id `id`. -/
structure Tells (config : Config) (now id : Int) (c : Call Interface) (answer : Answer)
    (stored : Option Interface) (added : Option (Int × Entry)) : Prop where
  written : c.written? config (.ok answer) = stored
  entered : c.entered? now id (.ok answer) = added
  recorded : c.recorded? (.ok answer) = added.map fun x => (x.1, !x.2.dirty)

/-- What a call that ends with an answer has made of the tables `t`, by single writes that the answer
tells. -/
inductive Did (config : Config) (s : Store) (now : Int) (e : Entropy) (c : Call Interface)
    (answer : Answer) (t : Tables) : Tables → Prop
  | looked : c.Tells config now (t.lastLogId + 1) answer none none →
    Did config s now e c answer t t
  | stored {i : Interface} {id : Int} {t' : Tables} : (Change.store s now e i).run t = .ok (id, t') →
    c.Tells config now (t.lastLogId + 1) answer (some { i with id }) none →
    Did config s now e c answer t t'
  | entered {i : Interface} {operation : Operation} {state : State} {dirty : Bool}
      {message : String} {entry : Entry} {t' : Tables} :
    History.checkTime (now.fdiv 1000000) = .ok () →
    (Change.append now i operation state dirty message).run t = .ok (entry, t') →
    c.Tells config now (t.lastLogId + 1) answer none (some (i.id, entry)) →
    Did config s now e c answer t t'
  | both {i : Interface} {id : Int} {operation : Operation} {state : State} {message : String}
      {entry : Entry} {t₁ t' : Tables} : (Change.store s now e i).run t = .ok (id, t₁) →
    History.checkTime (now.fdiv 1000000) = .ok () →
    (Change.append now { i with id } operation state true message).run t₁ = .ok (entry, t') →
    c.Tells config now (t.lastLogId + 1) answer (some { i with id }) (some (id, entry)) →
    Did config s now e c answer t t'

end Call

namespace Tables

/-- `t'` is what the tables `t` become when `written` is written and `recorded` is recorded. -/
structure Effect (key : Bytes) (t : Tables) (written : Option Interface)
    (recorded : Option (Int × Bool)) (t' : Tables) : Prop where
  sound : t'.Sound key
  holds : ∀ b, t'.Holds key b ↔
    match written with
    | none => t.Holds key b
    | some a => b = a ∨ b.id ≠ a.id ∧ t.Holds key b
  log :
    match recorded with
    | none => t'.log = t.log
    | some (id, applied) => ∃ (r : LogRow) (e : Entry),
        t'.log = t.log ++ [r] ∧ r.interfaceId = id ∧ History.entryOfRow r = .ok e ∧
          e.dirty = !applied

/-- One id belongs to one interface. -/
lemma Sound.holds_unique {key : Bytes} {t : Tables} (hk : key.length = SecretBox.keySize)
    (ht : t.Sound key) {a b : Interface} (ha : t.Holds key a) (hb : t.Holds key b)
    (hid : a.id = b.id) : a = b := by
  obtain ⟨r, hr, hstoresA⟩ := ha
  obtain ⟨s, hs, hstoresB⟩ := hb
  have hrs : r = s := ht.ordered.eq_of_id_eq hr hs (by rw [hstoresA.id, hstoresB.id, hid])
  subst hrs
  rw [hid] at hstoresA
  have hread := hstoresA.read hk
  rw [hstoresB.read hk] at hread
  exact (Except.ok.inj hread).symm

variable {key : Bytes} {t t₁ t' : Tables} {a : Interface} {e : Entry} {id : Int}

lemma Effect.none (ht : t.Sound key) : Effect key t none none t :=
  ⟨ht, fun _ => Iff.rfl, rfl⟩

lemma Wrote.effect (hk : key.length = SecretBox.keySize) (h : Wrote key t a t') :
    Effect key t (some a) none t' := by
  refine ⟨h.sound, fun b => ?_, h.log⟩
  by_cases hid : b.id = a.id
  · constructor
    · intro hb
      exact Or.inl (h.sound.holds_unique hk hb h.holds hid)
    · rintro (rfl | ⟨hne, -⟩)
      · exact h.holds
      · exact absurd hid hne
  · rw [h.others b hid]
    constructor
    · intro hb
      exact Or.inr ⟨hid, hb⟩
    · rintro (rfl | ⟨-, hb⟩)
      · exact absurd rfl hid
      · exact hb

lemma Logged.effect (h : Logged key t id e t') :
    Effect key t Option.none (some (id, !e.dirty)) t' := by
  refine ⟨h.sound, h.holds, ?_⟩
  obtain ⟨r, hlog, hr, hread⟩ := h.log
  exact ⟨r, e, hlog, hr, hread, by simp⟩

/-- A write and the entry about it. -/
lemma Wrote.effect_logged (hk : key.length = SecretBox.keySize) (h : Wrote key t a t₁)
    (hlog : Logged key t₁ id e t') : Effect key t (some a) (some (id, !e.dirty)) t' := by
  have hwrite := h.effect hk
  refine ⟨hlog.sound, fun b => (hlog.holds b).trans (hwrite.holds b), ?_⟩
  obtain ⟨r, hrows, hr, hread⟩ := hlog.log
  exact ⟨r, e, by rw [hrows, h.log], hr, hread, by simp⟩

end Tables

namespace Change

variable {t t' : Tables}

/-- A write together with its entry is a write, and then the entry about what was written. -/
lemma run_record_eq_ok {s : Store} {now : Int} {e : Entropy} {i a : Interface}
    {operation : Operation} {state : State} {message : String}
    (h : (record s now e i operation state message).run t = .ok (a, t')) :
    ∃ id t₁ entry, (store s now e i).run t = .ok (id, t₁) ∧
      History.checkTime (now.fdiv 1000000) = .ok () ∧
      (append now { i with id } operation state true message).run t₁ = .ok (entry, t') ∧
      a = { i with id } := by
  obtain ⟨id, t₁, hstore, hrest⟩ := run_bind_eq_ok h
  obtain ⟨entry, t₂, henter, hpure⟩ := run_bind_eq_ok hrest
  have hpure : (.ok ({ i with id }, t₂) : Except Failure (Interface × Tables)) = .ok (a, t') :=
    hpure
  obtain ⟨rfl, rfl⟩ : { i with id } = a ∧ t₂ = t' := by simpa using hpure
  obtain ⟨u, hclock, happend⟩ := run_guarded_eq_ok henter
  exact ⟨id, t₁, entry, hstore, hclock, happend, rfl⟩

/-- What a write together with its entry has done. -/
lemma record_eq_ok {s : Store} {now : Int} {e : Entropy} {i a : Interface} {operation : Operation}
    {state : State} {message : String}
    (ht : t.Sound s.key)
    (h : (record s now e i operation state message).run t = .ok (a, t')) :
    ∃ t₁ entry, Tables.Wrote s.key t a t₁ ∧ Tables.Logged s.key t₁ a.id entry t' ∧
      entry.dirty = true ∧ a = { i with id := a.id } ∧ (0 < i.id → a.id = i.id) := by
  obtain ⟨id, t₁, entry, hstore, hclock, happend, rfl⟩ := run_record_eq_ok h
  obtain ⟨hwrote, hid⟩ := ht.wrote hstore
  have hlogged := hwrote.sound.logged hclock happend
  obtain ⟨-, -, hentry, -⟩ := append_eq_ok happend
  exact ⟨t₁, entry, hwrote, hlogged, by rw [hentry], rfl, hid⟩

lemma run_logged_eq_ok {α : Type} {i : Interface} {c : Option Entry → Change α} {a : α}
    (h : (logged i c).run t = .ok (a, t')) :
    ∃ last, t.newest i = .ok last ∧ (c last).run t = .ok (a, t') := by
  obtain ⟨last, t₁, hlook, hrest⟩ := run_bind_eq_ok h
  obtain ⟨hnewest, rfl⟩ := run_look_eq_ok hlook
  exact ⟨last, hnewest, hrest⟩

/-- What is found out from the newest entry leaves the tables alone. -/
lemma eq_of_run_logged_pure {α : Type} {i : Interface} {f : Option Entry → α} {a : α}
    (h : (logged i fun last => return f last).run t = .ok (a, t')) : t' = t := by
  obtain ⟨last, -, hpure⟩ := run_logged_eq_ok h
  exact (Prod.mk.inj (Except.ok.inj hpure)).2.symm

lemma lastLogId_stored {s : Store} {now : Int} {e : Entropy} {i : Interface} {id : Int}
    (h : (store s now e i).run t = .ok (id, t')) : t'.lastLogId = t.lastLogId := by
  obtain ⟨-, -, t₁, hup, rfl⟩ := store_eq_ok h
  obtain ⟨-, -, rfl⟩ := Tables.upsertInterface_eq_ok hup
  simp

/-- What is found out from the tables leaves them alone. -/
lemma eq_of_run_map_look {α β : Type} {f : Tables → Except Failure α} {g : α → β} {b : β}
    (h : (g <$> look f).run t = .ok (b, t')) : t' = t := by
  obtain ⟨a, hlook, -⟩ := run_map_eq_ok h
  exact (run_look_eq_ok hlook).2

lemma checkTime_of_checkNamed {now : Int} {operation state : String} {names : Operation × State}
    (h : History.checkNamed now operation state = .ok names) :
    History.checkTime (now.fdiv 1000000) = .ok () := by
  cases hcheck : History.checkTime (now.fdiv 1000000) with
  | error f => simp [History.checkNamed, hcheck, bind, Except.bind] at h
  | ok u => rfl

end Change

namespace Call

lemma written?_error (config : Config) (c : Call Interface) (f : Failure) :
    c.written? config (.error f) = none := by cases c <;> rfl

lemma recorded?_error (c : Call Interface) (f : Failure) : c.recorded? (.error f) = none := by
  cases c <;> rfl

lemma entered?_error (now id : Int) (c : Call Interface) (f : Failure) :
    c.entered? now id (.error f) = none := by cases c <;> rfl

open Change

variable {config : Config} {s : Store} {now : Int} {e : Entropy} {t t' : Tables}

/-- The calls of an agent that store an interface. -/
lemma did_of_record {β : Type} {check : Except Failure β} {i : Interface} {operation : Operation}
    {state : State} {message : String} {c : Call Interface} {a : Interface}
    (h : (guarded check fun _ => logged i fun _ => record s now e i operation state message).run t =
      .ok (a, t'))
    (hwritten : c.written? config (.ok (.interface a)) = some { i with id := a.id })
    (hentered : ∀ id, a = { i with id := a.id } → c.entered? now id (.ok (.interface a)) =
      some (a.id, { id, seconds := now.fdiv 1000000, operation, state, dirty := true, message }))
    (hrecorded : c.recorded? (.ok (.interface a)) = some (a.id, false)) :
    c.Did config s now e (.interface a) t t' := by
  obtain ⟨-, -, hlogged⟩ := run_guarded_eq_ok h
  obtain ⟨-, -, hrecord⟩ := run_logged_eq_ok hlogged
  obtain ⟨id, t₁, entry, hstore, hclock, happend, rfl⟩ := run_record_eq_ok hrecord
  obtain ⟨-, -, hentry, -⟩ := append_eq_ok happend
  refine .both hstore hclock happend ⟨hwritten, ?_, ?_⟩
  · rw [hentered _ rfl, hentry, lastLogId_stored hstore]
  · rw [hrecorded, hentry]
    rfl

/-- Every call that ends with an answer has done one of the four. -/
theorem did (c : Call Interface) {r : Answer × Tables}
    (h : (c.change config s now e).run t = .ok r) : c.Did config s now e r.1 t r.2 := by
  obtain ⟨answer, t'⟩ := r
  have hlooked : t' = t → c.Tells config now (t.lastLogId + 1) answer none none →
      c.Did config s now e answer t t' := by
    rintro rfl htold
    exact .looked htold
  cases c with
  | ensure i =>
    obtain ⟨id, hstore, rfl⟩ := run_map_eq_ok h
    exact .stored hstore ⟨rfl, rfl, rfl⟩
  | join apiUrl privateKey listenPort response message =>
    obtain ⟨a, hrecord, rfl⟩ := run_map_eq_ok h
    refine did_of_record hrecord rfl (fun id ha => ?_) rfl
    have hname : a.network.name = response.network.name := by rw [ha]; rfl
    rw [entered?, hname]
    rfl
  | refresh i response message =>
    obtain ⟨a, hrecord, rfl⟩ := run_map_eq_ok h
    refine did_of_record hrecord rfl (fun id ha => ?_) rfl
    have hpeers : a.peers = response.peers := by rw [ha]; rfl
    rw [entered?, hpeers]
    rfl
  | applied i message =>
    obtain ⟨entry, hlogged, rfl⟩ := run_map_eq_ok h
    obtain ⟨-, -, henter⟩ := run_logged_eq_ok hlogged
    obtain ⟨u, hclock, happend⟩ := run_guarded_eq_ok henter
    obtain ⟨-, -, hentry, -⟩ := append_eq_ok happend
    exact .entered hclock happend ⟨rfl, rfl, by rw [hentry]; rfl⟩
  | failed i operation message =>
    obtain ⟨entry, hlogged, rfl⟩ := run_map_eq_ok h
    obtain ⟨-, -, henter⟩ := run_logged_eq_ok hlogged
    obtain ⟨names, hnames, happend⟩ := run_guarded_eq_ok henter
    obtain ⟨-, -, hentry, -⟩ := append_eq_ok happend
    exact .entered (checkTime_of_checkNamed hnames) happend ⟨rfl, rfl, by rw [hentry]; rfl⟩
  | needsApply i =>
    obtain ⟨flag, hlogged, rfl⟩ := run_map_eq_ok h
    exact hlooked (eq_of_run_logged_pure hlogged) ⟨rfl, rfl, rfl⟩
  | interface id => exact hlooked (eq_of_run_map_look h) ⟨rfl, rfl, rfl⟩
  | interfaceByDevice device network => exact hlooked (eq_of_run_map_look h) ⟨rfl, rfl, rfl⟩
  | interfaces => exact hlooked (eq_of_run_map_look h) ⟨rfl, rfl, rfl⟩
  | lastLogByDevice device network => exact hlooked (eq_of_run_map_look h) ⟨rfl, rfl, rfl⟩

/-- A call writes and records what its answer says, and nothing else. -/
theorem effect (config : Config) {s : Store} (hk : s.key.length = SecretBox.keySize) (now : Int)
    (e : Entropy) {t : Tables} (ht : t.Sound s.key) (c : Call Interface) :
    Tables.Effect s.key t (c.written? config ((c.change config s now e).outcome t))
      (c.recorded? ((c.change config s now e).outcome t)) ((c.change config s now e).after t) := by
  cases hrun : (c.change config s now e).run t with
  | error f =>
    rw [outcome_of_error hrun, after_of_error hrun, written?_error, recorded?_error]
    exact Tables.Effect.none ht
  | ok r =>
    rw [outcome_of_ok hrun, after_of_ok hrun]
    cases c.did hrun with
    | looked htold =>
      rw [htold.written, htold.recorded]
      exact Tables.Effect.none ht
    | stored hstore htold =>
      rw [htold.written, htold.recorded]
      exact (ht.wrote hstore).1.effect hk
    | entered hclock happend htold =>
      rw [htold.written, htold.recorded]
      exact (ht.logged hclock happend).effect
    | both hstore hclock happend htold =>
      rw [htold.written, htold.recorded]
      have hwrote := (ht.wrote hstore).1
      exact hwrote.effect_logged hk (hwrote.sound.logged hclock happend)

end Call

end MeshAgent
