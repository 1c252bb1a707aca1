import MeshAgent.Proofs.Home.Actions
import MeshAgent.Proofs.Home.Callbacks
import MeshAgent.Proofs.Secrecy.Calls

/-!
# Secrets do not show

Two stores begin empty, each with a key and a random source of its own, and the same is done with
both of them, up to the bytes of the private keys and device tokens that are handed over. Then what
they answer, what they record and what is in their tables is the same, up to the bytes of secrets.
-/
namespace MeshAgent

/-- Events that are the same up to the bytes of the secrets that they bring. -/
inductive Event.Twin : Event → Event → Prop
  | call (config : Config) {c c' : Call Interface} : c.Twin c' →
    Twin (.call config c) (.call config c')
  | close : Twin .close .close
  | reopen : Twin .reopen .reopen
  | setClock (now : Int) : Twin (.setClock now) (.setClock now)

/-- Actions that are the same up to the bytes of the secrets that they bring. -/
inductive Action.Twin : Action → Action → Prop
  | event {e e' : Event} : e.Twin e' → Twin (.event e) (.event e')
  | withLog {i i' : Interface} {callback callback' : Option Entry → Callback Unit} :
    i.Twin i' → (∀ last, (callback last).Twin (callback' last)) →
    Twin (.withLog i callback) (.withLog i' callback')
  | transaction (write : Bool) {callback callback' : Callback Unit} : callback.Twin callback' →
    Twin (.transaction write callback) (.transaction write callback')

namespace Callback

variable {α : Type}

/-- How the steps of a callback end, whatever it makes of it. -/
def outcomes (store : Store) (now : Int) (t : Tables) (b : Callback α)
    (m : Transaction.Progress) : List (Except Failure Answer) :=
  (b.steps store now t m).map fun s => (s.1.effect store now t s.2).1

/-- Takes the steps of a callback, and has `before` and their outcomes as its result. -/
def traced (before : List (Except Failure Answer)) :
    Callback α → Callback (List (Except Failure Answer))
  | done _ => done before
  | fail _ => done before
  | step c next => step c fun r => (next r).traced (before ++ [r])

lemma course_traced (store : Store) (now : Int) (t : Tables) (b : Callback α)
    (before : List (Except Failure Answer)) (m : Transaction.Progress) :
    ((b.traced before).course store now t m).1 = .ok (before ++ b.outcomes store now t m) := by
  induction b generalizing before m with
  | done a => simp [traced, course, outcomes, steps]
  | fail f => simp [traced, course, outcomes, steps]
  | step c next ih =>
    rw [traced, course, ih]
    simp [outcomes, steps]

lemma Twin.traced {b b' : Callback α} (h : b.Twin b') (before : List (Except Failure Answer)) :
    (b.traced before).Twin (b'.traced before) := by
  induction h generalizing before with
  | done a => exact .done before
  | fail f => exact .done before
  | step hc _ ih => exact .step hc fun r => ih r _

end Callback

lemma Connection.follow_durable (c : Connection) : c.follow c.durable = c := by
  obtain ⟨durable, working, closed⟩ := c
  cases working with
  | none => rfl
  | some t => by_cases ht : t = durable <;> simp [follow, ht]

lemma Twins.close {k k' : Bytes} : Twins k k' Eq Store.close Store.close := by
  refine Parallel.get fun s s' hs => ?_
  rw [hs.connection.closed, hs.path]
  refine (Parallel.set ?_).bind fun _ _ _ => record _ _ _
  exact { hs with connection := ⟨rfl, hs.connection.durable, .none⟩ }

lemma Tables.twin_empty (k k' : Bytes) : Tables.Twin k k' {} {} :=
  ⟨rfl, fun _ hr => absurd hr List.not_mem_nil, fun _ hr => absurd hr List.not_mem_nil⟩

lemma map_masked_of_ends {x x' : Except Failure Answer} (h : Ends Answer.Twin x x') :
    x.map Answer.masked = x'.map Answer.masked := by
  cases h with
  | ok ha => exact congrArg Except.ok ha
  | error f => rfl

namespace Site

variable {α : Type} {w w' : Site} {k k' : Bytes} {R : α → α → Prop}

/-- How the steps of a callback end in a block that begins now. -/
def stepOutcomes (w : Site) (callback : Callback α) : List (Except Failure Answer) :=
  callback.outcomes w.mounted.store w.host.now w.tables ⟨.underWay w.tables, w.host.entropy⟩

/-- How the steps of an action's callback end, if its block begins and comes to it. -/
def callbackOutcomes (w : Site) : Action → List (Except Failure Answer)
  | .event _ => []
  | .withLog i callback =>
    match w.mounted.connection.closed, w.tables.newest i with
    | false, .ok last => w.stepOutcomes (callback last)
    | _, _ => []
  | .transaction _ callback =>
    if w.mounted.connection.closed then [] else w.stepOutcomes callback

/-- How the actions of a run end, one after the other, and before each of them the steps of its
callback. -/
def outcomes : Site → List Action → List (Except Failure Answer)
  | _, [] => []
  | w, a :: as => w.callbackOutcomes a ++ (w.act a).1 :: outcomes (w.act a).2 as

/-- Stores under any two keys that have been opened on empty databases, at the same time and after the
same records. -/
structure BeginsAlike (w w' : Site) : Prop where
  opened : w.Opened ∧ w'.Opened
  empty : w.tables = {} ∧ w'.tables = {}
  path : w.mounted.store.path = w'.mounted.store.path
  now : w.host.now = w'.host.now
  records : w.host.records = w'.host.records

/-- Sites whose stores, with the keys `k` and `k'`, are twins. -/
structure Twin (k k' : Bytes) (w w' : Site) : Prop where
  left : Reachable w
  right : Reachable w'
  state : StoreState.Twin k k' w.state w'.state

/-- The next operation begins in the state that this one has left. -/
lemma state_leave (hw : w.Steady) (s : StoreState) : (w.leave s).state = s := by
  rw [state, tables_leave hw]
  simp only [leave, Connection.follow_durable]

lemma mounted_of_opened (hw : w.Opened) :
    w.mounted = { store := w.mounted.store, place := w.mounted.place } := by
  obtain ⟨path, key, host, h⟩ := hw
  have hk := Home.length_of_exec_openDatabase h
  rcases hconnect : MeshAgent.exec (Home.connect path) host with ⟨_ | place, host'⟩
  · rw [Home.exec_openDatabase hk hconnect] at h
    simp at h
  · rw [Home.exec_openDatabase hk hconnect] at h
    simp only [Prod.mk.injEq, Except.ok.injEq] at h
    rw [← h.1]

/-- Stores that have just been opened are twins if their tables are. -/
lemma twin_of_opened (hw : w.Opened) (hw' : w'.Opened)
    (hpath : w.mounted.store.path = w'.mounted.store.path) (hnow : w.host.now = w'.host.now)
    (hrecords : w.host.records = w'.host.records) (htables : Tables.Twin k k' w.tables w'.tables)
    (hleft : w.mounted.store.key = k) (hright : w'.mounted.store.key = k') :
    StoreState.Twin k k' w.state w'.state := by
  have hm := mounted_of_opened hw
  have hm' := mounted_of_opened hw'
  refine ⟨hleft, hright, hpath, ⟨?_, htables, ?_⟩, ?_, ?_, hnow, hrecords⟩
  all_goals simp only [state, Connection.follow]; rw [hm, hm']
  exact .none

lemma host_reopen (hw : w.Steady) :
    w.reopen.host = Home.noteOpened w.mounted.store.path w.host := by
  have hplace := hw.place
  have hconnect : MeshAgent.exec (Home.connect w.mounted.store.path) w.host =
      (.ok w.mounted.place, w.host) := by
    cases hp : w.mounted.place with
    | none =>
      rw [hp] at hplace
      exact Home.exec_connect_of_memory w.host hplace
    | some p =>
      rw [hp] at hplace
      obtain ⟨hpath, ⟨t, ht⟩, hfile⟩ := hplace
      exact Home.exec_connect_of_database hfile hpath ht
  rw [reopen, Home.exec_openDatabase hw.key hconnect]

lemma call_eq (w : Site) (config : Config) (c : Call Interface) :
    w.call config c =
      ((w.exec (c.perform config)).1 >>= fun r => r.1, (w.exec (c.perform config)).2) := by
  rw [call]
  rcases w.exec (c.perform config) with ⟨_ | r, w'⟩ <;> rfl

namespace Twin

lemma keys (h : Twin k k' w w') :
    k.length = SecretBox.keySize ∧ k'.length = SecretBox.keySize := by
  rw [← h.state.left, ← h.state.right]
  exact ⟨h.left.spec.1.key, h.right.spec.1.key⟩

lemma tables (h : Twin k k' w w') : Tables.Twin k k' w.tables w'.tables :=
  h.state.connection.durable

/-- Stores with the same path both have a file, or neither has one. -/
lemma isSome_place (h : Twin k k' w w') : w.mounted.place.isSome = w'.mounted.place.isSome := by
  have hpath : w.mounted.store.path = w'.mounted.store.path := h.state.path
  have hleft := h.left.spec.1.place
  have hright := h.right.spec.1.place
  rw [hpath] at hleft
  -- A file goes with a path that is neither empty nor that of a database in memory.
  cases hp : w.mounted.place with
  | none =>
    cases hp' : w'.mounted.place with
    | none => rfl
    | some q =>
      rw [hp] at hleft
      rw [hp'] at hright
      exact absurd hleft hright.2.2.named
  | some p =>
    cases hp' : w'.mounted.place with
    | none =>
      rw [hp] at hleft
      rw [hp'] at hright
      exact absurd hright hleft.2.2.named
    | some q => rfl

/-- Parallel operations end alike on both sites. -/
lemma exec (h : Twin k k' w w') {x x' : StoreM α} (hx : Twins k k' R x x') :
    Ends R (w.exec x).1 (w'.exec x').1 ∧
      StoreState.Twin k k' (w.exec x).2.state (w'.exec x').2.state := by
  rw [exec_eq, exec_eq, state_leave h.left.spec.1, state_leave h.right.spec.1]
  exact hx _ _ h.state

lemma call (h : Twin k k' w w') (config : Config) {c c' : Call Interface} (hc : c.Twin c') :
    Ends Answer.Twin (w.call config c).1 (w'.call config c').1 ∧
      Twin k k' (w.call config c).2 (w'.call config c').2 := by
  have hleft := h.left.call config c
  have hright := h.right.call config c'
  obtain ⟨hends, hstate⟩ := h.exec (Twins.perform h.keys.1 h.keys.2 config hc)
  rw [call_eq] at hleft ⊢
  rw [call_eq] at hright ⊢
  exact ⟨hends.bind fun _ _ hr => hr.1, hleft, hright, hstate⟩

lemma withLog (h : Twin k k' w w') {i i' : Interface} (hi : i.Twin i')
    {callback callback' : Option Entry → Callback Unit}
    (hcallback : ∀ last, (callback last).Twin (callback' last)) :
    Ends Eq (w.withLog i callback).1 (w'.withLog i' callback').1 ∧
      Twin k k' (w.withLog i callback).2 (w'.withLog i' callback').2 := by
  obtain ⟨hends, hstate⟩ := h.exec (Twins.logged hi fun _ last =>
    Twins.callback h.keys.1 h.keys.2 (hcallback last))
  exact ⟨hends, h.left.withLog i callback, h.right.withLog i' callback', hstate⟩

lemma transaction (h : Twin k k' w w') (write : Bool) {callback callback' : Callback Unit}
    (hcallback : callback.Twin callback') :
    Ends Eq (w.transaction write callback).1 (w'.transaction write callback').1 ∧
      Twin k k' (w.transaction write callback).2 (w'.transaction write callback').2 := by
  obtain ⟨hends, hstate⟩ := h.exec (Twins.scope (fun hx => hx) write fun _ =>
    Twins.callback h.keys.1 h.keys.2 hcallback)
  exact ⟨hends, h.left.transaction write callback, h.right.transaction write callback', hstate⟩

lemma close (h : Twin k k' w w') : Twin k k' w.close w'.close :=
  ⟨h.left.close, h.right.close, (h.exec Twins.close).2⟩

lemma reopen (h : Twin k k' w w') : Twin k k' w.reopen w'.reopen := by
  obtain ⟨hopened, hstore, -, htables⟩ := reopen_spec h.left.spec.1
  obtain ⟨hopened', hstore', -, htables'⟩ := reopen_spec h.right.spec.1
  have hpath : w.mounted.store.path = w'.mounted.store.path := h.state.path
  have hrecords : w.host.records = w'.host.records := h.state.records
  refine ⟨h.left.reopen, h.right.reopen, twin_of_opened hopened hopened' ?_ ?_ ?_ ?_ ?_ ?_⟩
  · rw [hstore, hstore', hpath]
  · rw [host_reopen h.left.spec.1, host_reopen h.right.spec.1]
    exact h.state.now
  · rw [host_reopen h.left.spec.1, host_reopen h.right.spec.1]
    simp only [Home.noteOpened, Surroundings.record, hrecords, hpath]
  · rw [htables, htables', h.isSome_place]
    split
    · exact h.tables
    · exact Tables.twin_empty k k'
  · rw [hstore, ← h.state.left]
    rfl
  · rw [hstore', ← h.state.right]
    rfl

lemma setClock (h : Twin k k' w w') (now : Int) :
    Twin k k' (w.setClock now) (w'.setClock now) :=
  ⟨h.left.setClock now, h.right.setClock now, { h.state with now := rfl }⟩

lemma stepOutcomes (h : Twin k k' w w') (hopen : w.IsOpen) {callback callback' : Callback α}
    (hcallback : callback.Twin callback') :
    w.stepOutcomes callback = w'.stepOutcomes callback' := by
  have hopen' : w'.IsOpen := h.state.connection.closed.symm.trans hopen
  -- A callback that returns what its steps have answered takes the steps of the given one.
  obtain ⟨hends, -⟩ := h.exec (Twins.scope (fun hx => hx) true fun _ =>
    Twins.callback h.keys.1 h.keys.2 (hcallback.traced []))
  obtain ⟨s, hs, -⟩ := transaction_spec h.left.spec.1 hopen true (callback.traced [])
  obtain ⟨s', hs', -⟩ := transaction_spec h.right.spec.1 hopen' true (callback'.traced [])
  rw [Site.transaction, course, Callback.course_traced] at hs hs'
  rw [hs, hs'] at hends
  exact Except.ok.inj (ends_eq_iff.mp hends)

/-- The steps of callbacks answer no secrets. -/
lemma callbackOutcomes (h : Twin k k' w w') {a a' : Action} (ha : a.Twin a') :
    w.callbackOutcomes a = w'.callbackOutcomes a' := by
  have hclosed : w.mounted.connection.closed = w'.mounted.connection.closed :=
    h.state.connection.closed
  cases ha with
  | event he => rfl
  | @withLog i i' callback callback' hi hcallback =>
    have hnewest : w.tables.newest i = w'.tables.newest i' := by
      rw [Tables.newest, Tables.newest, Tables.lastLog?, Tables.lastLog?, hi.id_eq,
        h.tables.log_eq]
    rw [Site.callbackOutcomes, Site.callbackOutcomes, ← hclosed, ← hnewest]
    cases hopen : w.mounted.connection.closed with
    | true => rfl
    | false =>
      cases w.tables.newest i with
      | error f => rfl
      | ok last => exact h.stepOutcomes hopen (hcallback last)
  | transaction write hcallback =>
    rw [Site.callbackOutcomes, Site.callbackOutcomes, ← hclosed]
    split
    · rfl
    · next hopen => exact h.stepOutcomes (by simpa [IsOpen] using hopen) hcallback

/-- One action. -/
theorem act (h : Twin k k' w w') {a a' : Action} (ha : a.Twin a') :
    Ends Answer.Twin (w.act a).1 (w'.act a').1 ∧ Twin k k' (w.act a).2 (w'.act a').2 := by
  cases ha with
  | event he =>
    cases he with
    | call config hc => exact h.call config hc
    | close => exact ⟨.ok rfl, h.close⟩
    | reopen => exact ⟨.ok rfl, h.reopen⟩
    | setClock now => exact ⟨.ok rfl, h.setClock now⟩
  | withLog hi hcallback =>
    obtain ⟨hends, htwin⟩ := h.withLog hi hcallback
    exact ⟨hends.map fun _ _ _ => rfl, htwin⟩
  | transaction write hcallback =>
    obtain ⟨hends, htwin⟩ := h.transaction write hcallback
    exact ⟨hends.map fun _ _ _ => rfl, htwin⟩

/-- A whole run of actions. -/
theorem carryOut (h : Twin k k' w w') {as as' : List Action}
    (has : List.Forall₂ Action.Twin as as') :
    (w.outcomes as).map (Except.map Answer.masked) =
        (w'.outcomes as').map (Except.map Answer.masked) ∧
      Twin k k' (w.carryOut as) (w'.carryOut as') := by
  induction has generalizing w w' with
  | nil => exact ⟨rfl, h⟩
  | cons ha _ ih =>
    obtain ⟨hends, hstep⟩ := h.act ha
    obtain ⟨hrest, hrun⟩ := ih hstep
    refine ⟨?_, hrun⟩
    rw [outcomes, outcomes, h.callbackOutcomes ha, List.map_append, List.map_append, List.map_cons,
      List.map_cons, map_masked_of_ends hends, hrest]

end Twin

lemma BeginsAlike.twin (h : BeginsAlike w w') :
    Twin w.mounted.store.key w'.mounted.store.key w w' := by
  refine ⟨.opened h.opened.1 h.empty.1, .opened h.opened.2 h.empty.2,
    twin_of_opened h.opened.1 h.opened.2 h.path h.now h.records ?_ rfl rfl⟩
  rw [h.empty.1, h.empty.2]
  exact Tables.twin_empty _ _

/-- Nothing but secrets tells two runs apart that differ in the bytes of secrets, in their store keys
and in what their random sources give. -/
theorem only_secrets_differ (h : BeginsAlike w w') {as as' : List Action}
    (has : List.Forall₂ Action.Twin as as') :
    (w.outcomes as).map (Except.map Answer.masked) =
        (w'.outcomes as').map (Except.map Answer.masked) ∧
      (w.carryOut as).host.records = (w'.carryOut as').host.records ∧
      (w.carryOut as).tables.masked = (w'.carryOut as').tables.masked := by
  obtain ⟨houtcomes, htwin⟩ := h.twin.carryOut has
  exact ⟨houtcomes, htwin.state.records, htwin.tables.masked⟩

/-- A private key and a token are stored and read again, by one store under a key of zeros and by
another one under a key of ones: the tables differ, and only in secrets. -/
theorem only_secrets_differ_of_two_stores :
    let bytes (b : UInt8) : Bytes := List.replicate Key.size b
    let addr : Address := .v4 ⟨0, Address.fullPrefix4⟩
    let i (b : UInt8) : Interface :=
      { apiUrl := "", network := ⟨"", "", addr⟩
        device := { id := "", name := "", addr, publicKey := bytes 0 }
        key := bytes b, deviceToken := [b] }
    let actions (b : UInt8) : List Action :=
      [.event (.call {} (.ensure (i b))), .event (.call {} (.interface 1))]
    let store (b : UInt8) : Site := inMemory (bytes b) { entropy := ⟨fun _ _ => b, 0⟩ }
    let run (b : UInt8) : Site := (store b).carryOut (actions b)
    (BeginsAlike (store 0) (store 1) ∧ List.Forall₂ Action.Twin (actions 0) (actions 1)) ∧
      (store 1).outcomes (actions 1) = [.ok (.id 1), .ok (.interface { i 1 with id := 1 })] ∧
      (run 0).tables ≠ (run 1).tables ∧ (run 0).tables.masked = (run 1).tables.masked := by
  intro bytes addr i actions store run
  have hbegin : BeginsAlike (store 0) (store 1) :=
    ⟨⟨opened_inMemory rfl _, opened_inMemory rfl _⟩, ⟨rfl, rfl⟩, rfl, rfl, rfl⟩
  have hactions : List.Forall₂ Action.Twin (actions 0) (actions 1) :=
    .cons (.event (.call {} (.ensure rfl))) (.cons (.event (.call {} (.interface 1))) .nil)
  refine ⟨⟨hbegin, hactions⟩, by decide +kernel, by decide +kernel, ?_⟩
  exact (only_secrets_differ hbegin hactions).2.2

end Site

end MeshAgent
