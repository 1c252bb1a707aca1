import MeshAgent.Home.Host
import MeshAgent.Proofs.Store.Blocks

/-!
# Sites

A site is a store on a host. Its tables are those in the file of the store, or, without a file, those
of its connection. Between two operations no transaction is under way, and opening the same path
again finds the same file.
-/
namespace MeshAgent

/-- A path that is meant for a file and can be one. -/
structure Home.Filed (path : String) : Prop where
  named : ¬ (path = "" ∨ path = Home.memoryPath)
  clear : (Path.ofText path).hasNull = false

namespace Files

/-- Writing something at a place that is no directory leaves all ways to other places open. -/
lemma walk_put {f : Files} {p : Place} (hp : f.find? p ≠ some .directory) (n : FileNode)
    {here q : Place} {names : List String} (h : f.walk here names = .ok q) :
    (f.put p n).walk here names = .ok q := by
  induction names generalizing here with
  | nil => exact h
  | cons name rest ih =>
    rw [walk] at h ⊢
    cases hhere : f.find? here with
    | none => simp [hhere] at h
    | some node =>
      cases node with
      | directory =>
        have hne : here ≠ p := by
          rintro rfl
          exact hp hhere
        rw [find?_put_of_ne hne, hhere]
        rw [hhere] at h
        exact ih h
      | plain content => simp [hhere] at h
      | database t => simp [hhere] at h

lemma place_put {f : Files} {p q : Place} (hp : f.find? p ≠ some .directory) (n : FileNode)
    {path : Path} (h : f.place path = .ok q) : (f.put p n).place path = .ok q := walk_put hp n h

lemma ne_nil_of_find? {f : Files} {p : Place} (hp : f.find? p ≠ some .directory) : p ≠ [] := by
  rintro rfl
  exact hp (if_pos rfl)

end Files

/-- A store on a host. -/
structure Site where
  mounted : MountedStore
  host : Host

namespace Site

/-- The tables that are durable. -/
def tables (w : Site) : Tables := w.mounted.durable w.host.files

/-- The state that an operation of the store begins in. -/
def state (w : Site) : StoreState :=
  { toOpenStore :=
      { w.mounted.toOpenStore with connection := w.mounted.connection.follow w.tables }
    toSurroundings := w.host.toSurroundings }

/-- The site that an operation leaves if it ends in the state `s`. -/
def leave (w : Site) (s : StoreState) : Site where
  mounted := { w.mounted with toOpenStore := s.toOpenStore }
  host :=
    { toSurroundings := s.toSurroundings
      files :=
        match w.mounted.place with
        | some p =>
          if s.connection.durable = w.tables then w.host.files
          else w.host.files.put p (.database s.connection.durable)
        | none => w.host.files }

/-- Runs an operation of the store. -/
def exec {α : Type} (w : Site) (x : StoreM α) : Except Failure α × Site :=
  let (outcome, mounted, host) := w.mounted.run x w.host
  (outcome, ⟨mounted, host⟩)

lemma exec_eq {α : Type} (w : Site) (x : StoreM α) :
    w.exec x = ((MeshAgent.exec x w.state).1, w.leave (MeshAgent.exec x w.state).2) := rfl

/-- Whether the connection of the store has not been closed. -/
def IsOpen (w : Site) : Prop := w.mounted.connection.closed = false

/-- What holds between two operations. -/
structure Steady (w : Site) : Prop where
  key : w.mounted.store.key.length = SecretBox.keySize
  working : w.mounted.connection.working = none
  finished_lt : ∀ k ∈ w.mounted.finished, k < w.mounted.begun
  place :
    match w.mounted.place with
    | some p => w.host.files.place (Path.ofText w.mounted.store.path) = .ok p ∧
        (∃ t, w.host.files.find? p = some (.database t)) ∧ Home.Filed w.mounted.store.path
    | none => w.mounted.store.path = "" ∨ w.mounted.store.path = Home.memoryPath

variable {w : Site}

lemma tables_of_place {p : Place} {t : Tables} (hp : w.mounted.place = some p)
    (ht : w.host.files.find? p = some (.database t)) : w.tables = t := by
  simp [tables, MountedStore.durable, hp, ht]

@[simp] lemma durable_state (w : Site) : w.state.connection.durable = w.tables := rfl

lemma Steady.idle (hw : w.Steady) : w.state.Idle := by
  refine ⟨?_, hw.finished_lt⟩
  simp [state, Connection.follow, hw.working]

lemma closed_of_not_isOpen (h : ¬ w.IsOpen) : w.state.connection.closed = true := by
  change w.mounted.connection.closed = true
  simpa [IsOpen] using h

/-- An operation that ends with `d` as the durable tables has put them into the file. -/
lemma tables_leave (hw : w.Steady) (s : StoreState) :
    (w.leave s).tables = s.connection.durable := by
  have hplace := hw.place
  cases hp : w.mounted.place with
  | none => simp [tables, MountedStore.durable, leave, hp]
  | some p =>
    rw [hp] at hplace
    obtain ⟨-, ⟨t, ht⟩, -⟩ := hplace
    have htables := tables_of_place hp ht
    have hdir : w.host.files.find? p ≠ some .directory := by simp [ht]
    have hne : p ≠ [] := Files.ne_nil_of_find? hdir
    by_cases hd : s.connection.durable = w.tables
    · simp [tables, MountedStore.durable, leave, hp, hd] at htables ⊢
      simp [ht]
    · simp [tables, MountedStore.durable, leave, hp] at hd ⊢
      simp [hd, hne]

/-- The site is steady again when the transaction of an operation is over. -/
lemma steady_leave (hw : w.Steady) {s : StoreState} (hstore : s.store = w.mounted.store)
    (hidle : s.Idle) : (w.leave s).Steady := by
  refine ⟨?_, hidle.working, hidle.finished_lt, ?_⟩
  · change s.store.key.length = _
    rw [hstore]
    exact hw.key
  · have hplace := hw.place
    cases hp : w.mounted.place with
    | none =>
      rw [hp] at hplace
      simp only [leave, hp, hstore]
      exact hplace
    | some p =>
      rw [hp] at hplace
      obtain ⟨hpath, ⟨t, ht⟩, hfile⟩ := hplace
      have hdir : w.host.files.find? p ≠ some .directory := by simp [ht]
      simp only [leave, hp, hstore]
      split
      · exact ⟨hpath, ⟨t, ht⟩, hfile⟩
      · refine ⟨Files.place_put hdir _ hpath, ⟨s.connection.durable, ?_⟩, hfile⟩
        exact Files.find?_put_self (Files.ne_nil_of_find? hdir)

end Site

namespace Home

lemma exec_lift {α : Type} (r : Except Failure α) (host : Host) :
    exec (HostM.lift r) host = (r, host) := by cases r <;> rfl

/-- Where there is no database yet, an empty one is made. -/
lemma exec_make {path : String} {host host' : Host} {p : Place} {place : Option Place}
    (hfile : Filed path) (hplace : host.files.place (Path.ofText path) = .ok p)
    (hdir : host.files.find? p ≠ some .directory)
    (h : exec (do
      HostM.change fun f => .ok (f.put p (.database {}))
      return some p) host = (.ok place, host')) :
    place = some p ∧ host'.files.place (Path.ofText path) = .ok p ∧
      (∃ t, host'.files.find? p = some (.database t)) ∧ Filed path := by
  simp only [HostM.change, HostM.look, exec_bind, exec_get, exec_lift, exec_modify, exec_pure,
    Prod.mk.injEq, Except.ok.injEq] at h
  obtain ⟨rfl, rfl⟩ := h
  refine ⟨rfl, Files.place_put hdir _ hplace, ⟨{}, ?_⟩, hfile⟩
  exact Files.find?_put_self (Files.ne_nil_of_find? hdir)

/-- Where a database is found or made. -/
lemma exec_connect_eq_ok {path : String} {host host' : Host} {place : Option Place}
    (h : exec (connect path) host = (.ok place, host')) :
    match place with
    | none => (path = "" ∨ path = memoryPath) ∧ host' = host
    | some p => host'.files.place (Path.ofText path) = .ok p ∧
        (∃ t, host'.files.find? p = some (.database t)) ∧ Filed path := by
  rw [connect] at h
  by_cases hmemory : path = "" ∨ path = memoryPath
  · simp only [if_pos hmemory, exec_pure, Prod.mk.injEq, Except.ok.injEq] at h
    obtain ⟨rfl, rfl⟩ := h
    exact ⟨hmemory, rfl⟩
  · cases hnull : (Path.ofText path).hasNull with
    | true => simp [hmemory, hnull] at h
    | false =>
      have hfile : Filed path := ⟨hmemory, hnull⟩
      simp only [if_neg hmemory, hnull, Bool.false_eq_true, if_false, exec_bind, exec_get] at h
      cases hplace : host.files.place (Path.ofText path) with
      | error problem => simp [hplace] at h
      | ok p =>
        rw [hplace] at h
        simp only at h
        generalize hfound : host.files.find? p = found at h
        generalize host.files.find? p.dropLast = parent at h
        rcases found with _ | (_ | (_ | ⟨_, _ | _⟩) | t)
        case some.database =>
          simp only [exec_pure, Prod.mk.injEq, Except.ok.injEq] at h
          obtain ⟨rfl, rfl⟩ := h
          exact ⟨hplace, ⟨t, hfound⟩, hfile⟩
        case some.directory => simp at h
        case some.plain.cons.cons => simp at h
        all_goals
          rcases parent with _ | (_ | _ | _) <;> simp only [exec_throw, Prod.mk.injEq, reduceCtorEq,
            false_and] at h
          obtain ⟨rfl, hmade⟩ := exec_make hfile hplace (by simp [hfound]) h
          exact hmade

/-- Where a database has been found before, it is found again. -/
lemma exec_connect_of_database {path : String} {host : Host} {p : Place} {t : Tables}
    (hfile : Filed path) (hplace : host.files.place (Path.ofText path) = .ok p)
    (ht : host.files.find? p = some (.database t)) :
    exec (connect path) host = (.ok (some p), host) := by
  simp only [connect, if_neg hfile.named, hfile.clear, Bool.false_eq_true, if_false, exec_bind,
    exec_get, hplace, ht, exec_pure]

lemma exec_connect_of_memory {path : String} (host : Host) (h : path = "" ∨ path = memoryPath) :
    exec (connect path) host = (.ok none, host) := by
  simp only [connect, if_pos h, exec_pure]

/-- What opening a database leaves of a host, besides the database. -/
def noteOpened (path : String) (host : Host) : Host :=
  { host with
    toSurroundings := host.toSurroundings.record .debug .store ("Opened store " ++ path) }

lemma exec_openDatabase {path : String} {key : Bytes} {host host' : Host}
    {outcome : Except Failure (Option Place)} (hk : key.length = SecretBox.keySize)
    (h : exec (connect path) host = (outcome, host')) :
    exec (openDatabase path key) host =
      match outcome with
      | .ok place => (.ok { store := { path, key }, place }, noteOpened path host')
      | .error f => (.error f, host') := by
  have hcheck : orFail (Secret.checkStoreKey key .openStore) = .ok () := by
    rw [Secret.checkStoreKey, if_pos hk]
    rfl
  rw [openDatabase, hcheck, exec_bind_ok (exec_lift _ _)]
  cases outcome with
  | error f => exact exec_bind_error h
  | ok place =>
    rw [exec_bind_ok h]
    rfl

lemma length_of_exec_openDatabase {path : String} {key : Bytes} {host host' : Host}
    {m : MountedStore} (h : exec (openDatabase path key) host = (.ok m, host')) :
    key.length = SecretBox.keySize := by
  by_cases hk : key.length = SecretBox.keySize
  · exact hk
  · have hcheck : ∃ e, orFail (Secret.checkStoreKey key .openStore) = .error e := by
      rw [Secret.checkStoreKey, if_neg hk]
      exact ⟨_, rfl⟩
    obtain ⟨e, he⟩ := hcheck
    rw [openDatabase, he, exec_bind_error (exec_lift _ host)] at h
    simp at h

end Home

namespace Site

variable {w : Site}

/-- The site is a store that has just been opened, on the host as opening it has left it. -/
def Opened (w : Site) : Prop :=
  ∃ path key host, MeshAgent.exec (Home.openDatabase path key) host = (.ok w.mounted, w.host)

lemma steady_of_opened (hw : w.Opened) : w.Steady ∧ w.IsOpen := by
  obtain ⟨path, key, host, h⟩ := hw
  have hk := Home.length_of_exec_openDatabase h
  cases hconnect : MeshAgent.exec (Home.connect path) host with
  | mk outcome host₁ =>
    rw [Home.exec_openDatabase hk hconnect] at h
    cases outcome with
    | error f => simp at h
    | ok place =>
      have hplace := Home.exec_connect_eq_ok hconnect
      simp only [Prod.mk.injEq, Except.ok.injEq] at h
      obtain ⟨hm, hhost⟩ := h
      refine ⟨⟨?_, ?_, ?_, ?_⟩, ?_⟩
      · rw [← hm]
        exact hk
      · rw [← hm]
      · rw [← hm]
        simp
      · rw [← hm, ← hhost]
        cases place with
        | none => exact hplace.1
        | some p => exact hplace
      · rw [IsOpen, ← hm]

/-- A store without a file that has just been opened. -/
def inMemory (key : Bytes) (host : Host) : Site :=
  ⟨{ store := ⟨Home.memoryPath, key⟩ }, Home.noteOpened Home.memoryPath host⟩

lemma opened_inMemory {key : Bytes} (hk : key.length = SecretBox.keySize) (host : Host) :
    (inMemory key host).Opened :=
  ⟨Home.memoryPath, key, host,
    Home.exec_openDatabase hk (Home.exec_connect_of_memory host (Or.inr rfl))⟩

/-- A store without a file under a key of zeros, on a host whose random source gives zeros. -/
def blank : Site := inMemory (List.replicate SecretBox.keySize 0) { entropy := ⟨fun _ _ => 0, 0⟩ }

/-- Closes the store and opens it again, with the same path and the same key. -/
def reopen (w : Site) : Site :=
  match MeshAgent.exec (Home.openDatabase w.mounted.store.path w.mounted.store.key) w.host with
  | (.ok mounted, host) => ⟨mounted, host⟩
  | (.error _, host) => { w with host }

/-- A database that has a file is found again; one without a file begins anew. -/
lemma reopen_spec (hw : w.Steady) :
    w.reopen.Opened ∧ w.reopen.mounted.store = w.mounted.store ∧
      w.reopen.mounted.place = w.mounted.place ∧
      w.reopen.tables = if w.mounted.place.isSome then w.tables else {} := by
  have hplace := hw.place
  cases hp : w.mounted.place with
  | none =>
    rw [hp] at hplace
    have h := Home.exec_openDatabase hw.key (Home.exec_connect_of_memory w.host hplace)
    rw [reopen, h]
    exact ⟨⟨_, _, w.host, h⟩, rfl, rfl, rfl⟩
  | some p =>
    rw [hp] at hplace
    obtain ⟨hpath, ⟨t, ht⟩, hfile⟩ := hplace
    have h := Home.exec_openDatabase hw.key (Home.exec_connect_of_database hfile hpath ht)
    rw [reopen, h]
    refine ⟨⟨_, _, w.host, h⟩, rfl, rfl, ?_⟩
    rw [tables_of_place hp ht, Option.isSome_some, if_pos rfl]
    exact tables_of_place rfl ht

/-- Closes the store. -/
def close (w : Site) : Site := (w.exec Store.close).2

lemma close_spec (hw : w.Steady) :
    w.close.Steady ∧ w.close.mounted.store = w.mounted.store ∧
      w.close.mounted.place = w.mounted.place ∧ w.close.tables = w.tables := by
  have hidle := hw.idle
  refine ⟨steady_leave hw rfl ⟨rfl, hidle.finished_lt⟩, rfl, rfl, ?_⟩
  rw [close, exec_eq, tables_leave hw]
  rfl

/-- Sets the clock. -/
def setClock (w : Site) (now : Int) : Site := { w with host := { w.host with now } }

lemma setClock_spec (hw : w.Steady) (now : Int) : (w.setClock now).Steady :=
  ⟨hw.key, hw.working, hw.finished_lt, hw.place⟩

/-- Carries out a call: how it ends, and the site that it leaves. -/
def call (w : Site) (config : Config) (c : Call Interface) : Except Failure Answer × Site :=
  match w.exec (c.perform config) with
  | (.ok (outcome, _), w') => (outcome, w')
  | (.error f, w') => (.error f, w')

/-- An open store carries out the change that a call is. -/
theorem exec_perform_spec (hw : w.Steady) (hopen : w.IsOpen) (config : Config)
    (c : Call Interface) {change : Change Answer}
    (hchange : change = c.change config w.mounted.store w.host.now w.host.entropy) :
    ∃ w', w.exec (c.perform config) =
        (.ok (change.outcome w.tables, c.heldAfter (change.outcome w.tables)), w') ∧
      w'.Steady ∧ w'.IsOpen ∧ w'.mounted.store = w.mounted.store ∧
      w'.mounted.place = w.mounted.place ∧ w'.host.now = w.host.now ∧
      w'.tables = change.after w.tables := by
  obtain ⟨e', s', hs', hset⟩ := Transaction.exec_perform config hw.idle hopen hw.key c
  have hstate : c.change config w.state.store w.state.now w.state.entropy = change := hchange.symm
  rw [hstate, durable_state] at hs' hset
  refine ⟨w.leave s', by rw [exec_eq, hs'], steady_leave hw hset.store hset.idle, hset.closed,
    hset.store, rfl, hset.now, ?_⟩
  rw [tables_leave hw, hset.durable]

/-- A closed store refuses calls and stays as it is. -/
theorem exec_perform_of_closed (hw : w.Steady) (hclosed : ¬ w.IsOpen) (config : Config)
    (c : Call Interface) :
    w.exec (c.perform config) =
        (.ok (.error (c.refusal w.mounted.store), c.iface?), w.leave w.state) ∧
      (w.leave w.state).Steady ∧ (w.leave w.state).tables = w.tables := by
  have hexec := Transaction.exec_perform_of_closed config (closed_of_not_isOpen hclosed) c
  exact ⟨by rw [exec_eq, hexec]; rfl, steady_leave hw rfl hw.idle, tables_leave hw _⟩

end Site

end MeshAgent
