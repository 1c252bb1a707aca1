import MeshAgent.Proofs.Home.Opening
import MeshAgent.Proofs.Home.Remembering

/-!
# The store key of a home

Whatever is done with the home of an agent while its configuration stays as it is, the store key is
neither lost nor replaced: the key file is made at most once, every store of the home is opened with the
key in it, and what one store has written under this key every other one reads back.
-/
namespace MeshAgent

/-! ## What actions do to files -/

namespace Site

variable {w : Site}

lemma files_leave (w : Site) (s : StoreState) :
    (w.leave s).host.files = w.host.files ∨ ∃ p t, w.mounted.place = some p ∧
      (w.leave s).host.files = w.host.files.put p (.database t) := by
  cases hp : w.mounted.place with
  | none =>
    left
    simp only [leave, hp]
  | some p =>
    by_cases hsame : s.connection.durable = w.tables
    · left
      simp only [leave, hp, if_pos hsame]
    · right
      exact ⟨p, s.connection.durable, rfl, by simp only [leave, hp, if_neg hsame]⟩

lemma call_eq_leave (w : Site) (config : Config) (c : Call Interface) :
    (w.call config c).2 = w.leave (MeshAgent.exec (c.perform config) w.state).2 := by
  rw [call, exec_eq]
  cases (MeshAgent.exec (c.perform config) w.state).1 <;> rfl

/-- An action changes no file but the database of its store. -/
lemma files_act (hw : w.Steady) (a : Action) :
    (w.act a).2.host.files = w.host.files ∨ ∃ p t, w.mounted.place = some p ∧
      (w.act a).2.host.files = w.host.files.put p (.database t) := by
  cases a with
  | event e =>
    cases e with
    | call config c =>
      rw [act, call_eq_leave]
      exact w.files_leave _
    | close => exact w.files_leave _
    | reopen =>
      left
      have hplace := hw.place
      cases hp : w.mounted.place with
      | none =>
        rw [hp] at hplace
        have h := Home.exec_openDatabase hw.key (Home.exec_connect_of_memory w.host hplace)
        simp only [act, step, reopen, h]
        rfl
      | some p =>
        rw [hp] at hplace
        obtain ⟨hpath, ⟨t, ht⟩, hfile⟩ := hplace
        have h := Home.exec_openDatabase hw.key (Home.exec_connect_of_database hfile hpath ht)
        simp only [act, step, reopen, h]
        rfl
    | setClock now => exact .inl rfl
  | withLog i callback => exact w.files_leave _
  | transaction write callback => exact w.files_leave _

/-- Every action leaves the store and its place as they are. -/
lemma act_spec (hw : w.Steady) (a : Action) :
    (w.act a).2.Steady ∧ (w.act a).2.mounted.store = w.mounted.store ∧
      (w.act a).2.mounted.place = w.mounted.place := by
  by_cases hreopen : a = .event .reopen
  · subst hreopen
    obtain ⟨hopened, hstore, hplace, -⟩ := reopen_spec hw
    exact ⟨(steady_of_opened hopened).1, hstore, hplace⟩
  · have hadvances := advances_act hw (.inr hreopen)
    exact ⟨hadvances.steady, hadvances.store, hadvances.place⟩

/-- The tables of a steady site are those in its file. -/
lemma Steady.find? (hw : w.Steady) {p : Place} (hp : w.mounted.place = some p) :
    w.host.files.find? p = some (.database w.tables) := by
  have hplace := hw.place
  rw [hp] at hplace
  obtain ⟨-, ⟨t, ht⟩, -⟩ := hplace
  rw [tables_of_place hp ht]
  exact ht

/-- An action puts its tables at the place of its store. -/
lemma grows_act (hw : w.Steady) (a : Action) {p : Place}
    (hp : ∀ q, w.mounted.place = some q → q = p) :
    Files.Grows p (fun t => w.mounted.place = some p ∧ t = (w.act a).2.tables) w.host.files
      (w.act a).2.host.files := by
  rcases files_act hw a with hsame | ⟨q, t, hq, hput⟩
  · rw [hsame]
    exact .refl
  · obtain rfl := hp q hq
    obtain ⟨hsteady, -, hplace⟩ := act_spec hw a
    have hdir : w.host.files.find? q ≠ some .directory := by simp [hw.find? hq]
    have hfound := hsteady.find? (hplace.trans hq)
    rw [hput, Files.find?_put_self (Files.ne_nil_of_find? hdir), Option.some.injEq,
      FileNode.database.injEq] at hfound
    rw [hput]
    exact Files.Grows.refl.stored hdir ⟨hq, hfound⟩

/-- A store stays as it is while files are added. -/
lemma Steady.grows {m : MountedStore} {host host' : Host} {data : Place} {P : Tables → Prop}
    (h : (⟨m, host⟩ : Site).Steady) (hg : Files.Grows data P host.files host'.files) :
    (⟨m, host'⟩ : Site).Steady := by
  refine ⟨h.key, h.working, h.finished_lt, ?_⟩
  have hplace := h.place
  simp only at hplace ⊢
  cases hp : m.place with
  | none =>
    rw [hp] at hplace
    exact hplace
  | some p =>
    rw [hp] at hplace
    obtain ⟨hpath, ⟨t, ht⟩, hfile⟩ := hplace
    exact ⟨hg.place hpath, hg.database ht, hfile⟩

end Site

/-! ## Homes -/

/-- A host, and the stores that have been opened in a home on it. -/
structure HomeState where
  host : Host
  stores : List MountedStore := []

/-- Something that is done with a home. -/
inductive HomeCall
  | loadConfig
  /-- Asks for the key in the configured key file. -/
  | takeKey (create : Bool)
  | openStore (create : Bool)
  /-- Does something with the store that was opened as the `n`th. -/
  | use (n : Nat) (a : Action)

/-- Whether a call may make a key file. -/
def HomeCall.creates : HomeCall → Bool
  | takeKey create => create
  | openStore create => create
  | _ => false

namespace HomeState

open Files

/-- The site of a store. -/
def site (v : HomeState) (m : MountedStore) : Site := ⟨m, v.host⟩

/-- What a call leaves of a home with the given configuration, whatever reads the text of it. -/
def perform (reader : Yaml.Reader) (home : Path) (c : Config) (v : HomeState) : HomeCall → HomeState
  | .loadConfig => { v with host := (exec (Home.loadConfig home reader) v.host).2 }
  | .takeKey create => { v with host := (exec (Home.takeKey create (home / c.keyFile)) v.host).2 }
  | .openStore create =>
    match exec (Home.openStore home create reader) v.host with
    | (.ok m, host) => ⟨host, v.stores ++ [m]⟩
    | (.error _, host) => { v with host }
  | .use n a =>
    match v.stores[n]? with
    | some m => ⟨((v.site m).act a).2.host, v.stores.set n ((v.site m).act a).2.mounted⟩
    | none => v

/-- The interfaces that a call writes to the database of the home. What is written to a database without
a file is gone with its store. -/
def written (v : HomeState) : HomeCall → List Interface
  | .use n a =>
    match v.stores[n]? with
    | some m => if m.place.isSome then (v.site m).written a else []
    | none => []
  | _ => []

/-- Calls lead from one state to another, while nothing but `c` is loaded as the configuration. The list
holds what they have written. -/
inductive Runs (reader : Yaml.Reader) (home : Path) (c : Config) (v : HomeState) :
    List Interface → HomeState → Prop
  | refl : Runs reader home c v [] v
  | step {ws : List Interface} {v' : HomeState} (call : HomeCall) : Runs reader home c v ws v' →
    Home.Configures reader v'.host.files home c →
    Runs reader home c v (ws ++ v'.written call) (v'.perform reader home c call)

/-- What holds of a home whose key file is `p` and whose database has the given path and place. -/
structure Intact (p : Path) (path : String) (data : Place) (ws : List Interface) (v : HomeState) :
    Prop where
  goal : v.host.files.goal (Path.ofText path) = data
  apart : v.host.files.goal p ≠ data
  steady : ∀ m ∈ v.stores, (v.site m).Steady
  named : ∀ m ∈ v.stores, m.store.path = path
  key : ∀ m ∈ v.stores, v.host.files.read p = .ok m.store.key
  /-- Something has been written only to a file. -/
  filed : ws ≠ [] → v.stores ≠ [] ∧ Home.Filed path
  /-- The database holds what was written last, under the key in the key file. -/
  remembers : ∀ t, v.host.files.find? data = some (.database t) →
    ∀ key, (ws ≠ [] → v.host.files.read p = .ok key) → t.Remembers key ws

variable {reader : Yaml.Reader} {home p : Path} {c : Config} {path : String} {data : Place}
  {ws : List Interface} {v : HomeState} {m : MountedStore}

namespace Intact

lemma place_eq (h : Intact p path data ws v) (hm : m ∈ v.stores) {q : Place}
    (hq : m.place = some q) : q = data := by
  have hplace := (h.steady m hm).place
  simp only [site, hq] at hplace
  rw [eq_goal hplace.1, h.named m hm, h.goal]

lemma place_of_filed (h : Intact p path data ws v) (hm : m ∈ v.stores)
    (hpath : Home.Filed path) : m.place = some data := by
  have hplace := (h.steady m hm).place
  cases hp : m.place with
  | none =>
    simp only [site, hp, h.named m hm] at hplace
    exact absurd hplace hpath.named
  | some q => rw [h.place_eq hm hp]

lemma exists_filed (h : Intact p path data ws v) (hws : ws ≠ []) :
    ∃ m ∈ v.stores, m.place = some data := by
  obtain ⟨hstores, hpath⟩ := h.filed hws
  obtain ⟨m, hm⟩ := List.exists_mem_of_ne_nil _ hstores
  exact ⟨m, hm, h.place_of_filed hm hpath⟩

/-- What is added to the files, a new database at most, leaves a home intact. -/
lemma grows (h : Intact p path data ws v) {host : Host}
    (hg : Grows data (Home.NewIn v.host.files data) v.host.files host.files) :
    Intact p path data ws { v with host } where
  goal := (hg.goal _).trans h.goal
  apart := fun hp => h.apart ((hg.goal _).symm.trans hp)
  steady := fun m hm => (h.steady m hm).grows hg
  named := h.named
  key := fun m hm => hg.read h.apart (h.key m hm)
  filed := h.filed
  remembers := by
    intro t ht key hkey
    by_cases hws : ws = []
    · subst hws
      rcases hg.of_database ht with hold | ⟨-, rfl, -⟩
      · exact h.remembers t hold key fun hne => absurd rfl hne
      · exact (Tables.sound_empty key).orderly.remembers
    · obtain ⟨m, hm, hp⟩ := h.exists_filed hws
      have hfound := (h.steady m hm).find? hp
      have hread := hg.read h.apart (h.key m hm)
      obtain rfl := Except.ok.inj (hread.symm.trans (hkey hws))
      rcases hg.of_database ht with hold | ⟨-, -, hnone⟩
      · exact h.remembers t hold _ fun _ => h.key m hm
      · exact absurd hfound (hnone _)

/-- A store that has been opened with the key of the home. -/
lemma opened (h : Intact p path data ws v) (hsteady : (v.site m).Steady)
    (hpath : m.store.path = path) (hkey : v.host.files.read p = .ok m.store.key) :
    Intact p path data ws { v with stores := v.stores ++ [m] } where
  goal := h.goal
  apart := h.apart
  steady := List.forall_mem_append.mpr ⟨h.steady, List.forall_mem_singleton.mpr hsteady⟩
  named := List.forall_mem_append.mpr ⟨h.named, List.forall_mem_singleton.mpr hpath⟩
  key := List.forall_mem_append.mpr ⟨h.key, List.forall_mem_singleton.mpr hkey⟩
  filed := fun hws => ⟨by simp, (h.filed hws).2⟩
  remembers := h.remembers

lemma filed_of_place (h : Intact p path data ws v) (hm : m ∈ v.stores) (hp : m.place.isSome) :
    Home.Filed path := by
  have hplace := (h.steady m hm).place
  obtain ⟨q, hq⟩ := Option.isSome_iff_exists.mp hp
  simp only [site, hq, h.named m hm] at hplace
  exact hplace.2.2

/-- What a store is used for is remembered, if the store has a file. -/
lemma remembers_act (h : Intact p path data ws v) (hm : m ∈ v.stores) (a : Action) {t : Tables}
    (ht : ((v.site m).act a).2.host.files.find? data = some (.database t)) :
    t.Remembers m.store.key (ws ++ if m.place.isSome then (v.site m).written a else []) := by
  have hsteady := h.steady m hm
  cases hp : m.place with
  | none =>
    rcases (Site.grows_act hsteady a fun q hq => h.place_eq hm hq).of_database ht with
      hold | ⟨-, hfile, -⟩
    · rw [Option.isSome_none, if_neg Bool.false_ne_true, List.append_nil]
      exact h.remembers t hold _ fun _ => h.key m hm
    · exact absurd (hp.symm.trans hfile) nofun
  | some q =>
    obtain rfl := h.place_eq hm hp
    obtain ⟨hafter, -, hplace⟩ := Site.act_spec hsteady a
    have hbefore := h.remembers _ (hsteady.find? hp) _ fun _ => h.key m hm
    have htables := hafter.find? (hplace.trans hp)
    rw [htables, Option.some.injEq, FileNode.database.injEq] at ht
    rw [Option.isSome_some, if_pos rfl, ← ht]
    exact Site.remembers_act hsteady hbefore (.inl (Option.isSome_iff_exists.mpr ⟨q, hp⟩))

/-- A store of the home is used. -/
lemma used (h : Intact p path data ws v) {n : Nat} (hn : v.stores[n]? = some m) (a : Action) :
    Intact p path data (ws ++ if m.place.isSome then (v.site m).written a else [])
      ⟨((v.site m).act a).2.host, v.stores.set n ((v.site m).act a).2.mounted⟩ := by
  have hm : m ∈ v.stores := List.mem_of_getElem? hn
  have hg := Site.grows_act (h.steady m hm) a fun q hq => h.place_eq hm hq
  have hread := hg.read h.apart (h.key m hm)
  obtain ⟨hsteady, hstore, -⟩ := Site.act_spec (h.steady m hm) a
  have hall : ∀ {Q : MountedStore → Prop}, (∀ m' ∈ v.stores, Q m') →
      Q ((v.site m).act a).2.mounted →
      ∀ m' ∈ v.stores.set n ((v.site m).act a).2.mounted, Q m' := by
    intro Q hold hnew m' hm'
    rcases List.mem_or_eq_of_mem_set hm' with hmem | rfl
    · exact hold m' hmem
    · exact hnew
  constructor
  case goal => exact (hg.goal _).trans h.goal
  case apart => exact fun hp => h.apart ((hg.goal _).symm.trans hp)
  case steady => exact hall (fun m' hm' => (h.steady m' hm').grows hg) hsteady
  case named => exact hall h.named (by rw [hstore]; exact h.named m hm)
  case key => exact hall (fun m' hm' => hg.read h.apart (h.key m' hm')) (by rw [hstore]; exact hread)
  case filed =>
    intro hne
    refine ⟨fun hnil => ?_, ?_⟩
    · have hnone : v.stores = [] := by simpa using hnil
      rw [hnone] at hm
      cases hm
    · rcases Bool.eq_false_or_eq_true m.place.isSome with hfile | hmemory
      · exact h.filed_of_place hm hfile
      · rw [hmemory, if_neg Bool.false_ne_true, List.append_nil] at hne
        exact (h.filed hne).2
  case remembers =>
    intro t ht key hkey
    have hafter := h.remembers_act hm a ht
    by_cases hnil : (ws ++ if m.place.isSome then (v.site m).written a else []) = []
    · rw [hnil]
      exact hafter.orderly.remembers
    · rw [← Except.ok.inj (hread.symm.trans (hkey hnil))]
      exact hafter

/-- One call. -/
theorem perform (h : Intact (home / c.keyFile) (home / c.dbFile).text data ws v)
    (hc : Home.Configures reader v.host.files home c) (call : HomeCall) :
    Intact (home / c.keyFile) (home / c.dbFile).text data (ws ++ v.written call)
        (v.perform reader home c call) ∧
      Grows data (fun _ => True) v.host.files (v.perform reader home c call).host.files := by
  have hadds : ∀ {host : Host},
      Grows data (Home.NewIn v.host.files data) v.host.files host.files →
      Intact (home / c.keyFile) (home / c.dbFile).text data (ws ++ []) { v with host } ∧
        Grows data (fun _ => True) v.host.files host.files := by
    intro host hg
    rw [List.append_nil]
    exact ⟨h.grows hg, hg.imp fun _ _ => trivial⟩
  cases call with
  | loadConfig =>
    obtain ⟨host, hexec, hfiles⟩ := Home.exec_loadConfig reader home v.host
    rw [HomeState.perform, hexec]
    exact hadds (by rw [hfiles]; exact .refl)
  | takeKey create =>
    obtain ⟨outcome, host, hexec, hg, -⟩ :=
      @Home.exec_takeKey data (Home.NewIn v.host.files data) create (home / c.keyFile) v.host
    rw [HomeState.perform, hexec]
    exact hadds hg
  | openStore create =>
    obtain ⟨outcome, host, hexec, hg, hopened⟩ :=
      Home.exec_openStore create hc h.goal h.apart
    obtain ⟨hintact, hgrows⟩ := hadds hg
    rw [HomeState.perform, hexec]
    cases outcome with
    | error f => exact ⟨hintact, hgrows⟩
    | ok m =>
      obtain ⟨hkey, hpath, hsite⟩ := hopened m rfl
      exact ⟨hintact.opened (Site.steady_of_opened hsite).1 hpath hkey, hgrows⟩
  | use n a =>
    rw [HomeState.perform, written]
    cases hn : v.stores[n]? with
    | none => exact hadds .refl
    | some m =>
      have hm : m ∈ v.stores := List.mem_of_getElem? hn
      have hg := Site.grows_act (h.steady m hm) a fun q hq => h.place_eq hm hq
      exact ⟨h.used hn a, hg.imp fun _ _ => trivial⟩

/-- All calls of a run. -/
theorem runs (h : Intact (home / c.keyFile) (home / c.dbFile).text data ws v)
    {ws' : List Interface} {v' : HomeState} (hr : Runs reader home c v ws' v') :
    Intact (home / c.keyFile) (home / c.dbFile).text data (ws ++ ws') v' ∧
      Grows data (fun _ => True) v.host.files v'.host.files := by
  induction hr with
  | refl => exact ⟨by rwa [List.append_nil], .refl⟩
  | step call _ hc ih =>
    obtain ⟨hintact, hg⟩ := ih.1.perform hc call
    exact ⟨by rwa [← List.append_assoc], ih.2.trans hg⟩

/-- Only a call that may make a key file makes one. -/
lemma isPresent_perform (h : Intact (home / c.keyFile) (home / c.dbFile).text data ws v)
    (hc : Home.Configures reader v.host.files home c) {call : HomeCall} (hcreate : call.creates = false)
    (hmissing : v.host.files.isPresent (home / c.keyFile) = false) :
    (v.perform reader home c call).host.files.isPresent (home / c.keyFile) = false := by
  cases call with
  | loadConfig =>
    obtain ⟨host, hexec, hfiles⟩ := Home.exec_loadConfig reader home v.host
    rw [HomeState.perform, hexec]
    rwa [← hfiles] at hmissing
  | takeKey create =>
    obtain rfl : create = false := hcreate
    rw [HomeState.perform, Home.exec_takeKey_of_present (.inl rfl)]
    exact hmissing
  | openStore create =>
    obtain rfl : create = false := hcreate
    have hfails : ∃ f host, exec (Home.openStore home false reader) v.host = (.error f, host) ∧
        host.files = v.host.files := by
      cases hconfigured : Home.configured reader v.host.files home with
      | error f => exact ⟨f, Home.exec_openStore_of_unreadable _ hconfigured⟩
      | ok c' =>
        obtain rfl := hc c' hconfigured
        obtain ⟨f, hkey⟩ := Home.keyIn_of_missing hmissing
        exact ⟨f, Home.exec_openStore_of_keyless hconfigured (.inl rfl) hkey⟩
    obtain ⟨f, host, hexec, hfiles⟩ := hfails
    rw [HomeState.perform, hexec]
    rwa [← hfiles] at hmissing
  | use n a =>
    rw [HomeState.perform]
    cases hn : v.stores[n]? with
    | none => exact hmissing
    | some m =>
      have hm : m ∈ v.stores := List.mem_of_getElem? hn
      rcases Site.files_act (h.steady m hm) a with hsame | ⟨q, t, hq, hput⟩
      · simp only [hsame]
        exact hmissing
      · obtain rfl := h.place_eq hm hq
        simp only [hput]
        exact (isPresent_put_database ((h.steady m hm).find? hq) _ h.apart).trans hmissing

end Intact

/-- What holds of the store key of a home, from the state `v` to `v'`, after the interfaces `ws` have been
written. The configuration that is loaded, if any is, is `c`. -/
structure KeySafe (reader : Yaml.Reader) (home : Path) (c : Config) (v : HomeState) (ws : List Interface)
    (v' : HomeState) : Prop where
  /-- A key file is never modified, and neither is anything else in its place. -/
  kept : ∀ n, v.host.files.node? (home / c.keyFile) = .ok n →
    v'.host.files.node? (home / c.keyFile) = .ok n
  /-- A key file of another length makes every attempt to open the store fail for it, as long as a
  configuration is loaded. -/
  wrong : ∀ b, v.host.files.read (home / c.keyFile) = .ok b → b.length ≠ SecretBox.keySize →
    ∀ create,
      exec (Home.takeKey create (home / c.keyFile)) v'.host =
          (.error (Home.wrongLength (home / c.keyFile) b), v'.host) ∧
        (Home.configured reader v'.host.files home = .ok c →
          ∃ host, exec (Home.openStore home create reader) v'.host =
            (.error (Home.wrongLength (home / c.keyFile) b), host) ∧ host.files = v'.host.files)
  /-- A configuration that cannot be loaded makes every attempt to open the store fail for that, and
  nothing is changed. -/
  unloaded : ∀ f, Home.configured reader v'.host.files home = .error f → ∀ create,
    ∃ host, exec (Home.openStore home create reader) v'.host = (.error f, host) ∧
      host.files = v'.host.files
  /-- A key file is made only by a call that may make one. -/
  notMade : Home.Configures reader v'.host.files home c →
    v'.host.files.isPresent (home / c.keyFile) = false → ∀ call : HomeCall, call.creates = false →
      (v'.perform reader home c call).host.files.isPresent (home / c.keyFile) = false
  /-- All stores have been opened with the key in the key file. -/
  oneKey : ∀ m ∈ v'.stores, m.store.key.length = SecretBox.keySize ∧
    v'.host.files.read (home / c.keyFile) = .ok m.store.key
  /-- Every open store reads back what was written last, whichever store has written it. -/
  readBack : ∀ m ∈ v'.stores, (v'.site m).IsOpen → ∀ a, lastOn Interface.id ws a.id = some a →
    ∀ config, ((v'.site m).call config (.interface a.id)).1 = .ok (.interface a)

/-- In every run of calls on a home, the store key is neither lost nor replaced, whatever its
configuration is read with. The home may hold anything at first, and a database that stores have left,
under whatever keys. -/
theorem store_key_is_never_replaced {v₀ v v' : HomeState} {ws ws' : List Interface}
    (hstores : v₀.stores = [])
    (hapart : v₀.host.files.goal (home / c.keyFile) ∉
      v₀.host.files.goal (Path.ofText (home / c.dbFile).text) ::
        Home.sideFiles (v₀.host.files.goal (Path.ofText (home / c.dbFile).text)))
    (hdatabase : ∀ t, v₀.host.files.find? (v₀.host.files.goal (Path.ofText (home / c.dbFile).text)) =
      some (.database t) → t.Orderly)
    (hbefore : Runs reader home c v₀ ws v) (hrun : Runs reader home c v ws' v') :
    KeySafe reader home c v (ws ++ ws') v' := by
  have hfirst : Intact (home / c.keyFile) (home / c.dbFile).text
      (v₀.host.files.goal (Path.ofText (home / c.dbFile).text)) [] v₀ := by
    constructor
    case goal => rfl
    case apart => exact (List.ne_and_not_mem_of_not_mem_cons hapart).1
    case filed => exact fun hne => absurd rfl hne
    case remembers => exact fun t ht key _ => (hdatabase t ht).remembers
    all_goals
      intro m hm
      rw [hstores] at hm
      cases hm
  obtain ⟨hv, -⟩ := hfirst.runs hbefore
  obtain ⟨hv', hg⟩ := hv.runs hrun
  constructor
  case kept => exact fun n hn => hg.node? hv.apart hn
  case wrong =>
    intro b hb hlength create
    have hread := hg.read hv.apart hb
    have hpresent : v'.host.files.isPresent (home / c.keyFile) = true := by
      obtain ⟨n, hn, -⟩ := read_eq_ok.mp hread
      exact isPresent_iff.mpr ⟨n, hn⟩
    have hkey := Home.keyIn_of_wrong hread hlength
    refine ⟨?_, fun hc => Home.exec_openStore_of_keyless hc (.inr hpresent) hkey⟩
    rw [Home.exec_takeKey_of_present (.inr hpresent), hkey]
  case unloaded => exact fun f hf create => Home.exec_openStore_of_unreadable create hf
  case notMade => exact fun hc hmissing call hcreate => hv'.isPresent_perform hc hcreate hmissing
  case oneKey => exact fun m hm => ⟨(hv'.steady m hm).key, hv'.key m hm⟩
  case readBack =>
    intro m hm hopen a ha config
    rw [List.nil_append] at hv'
    have hne : ws ++ ws' ≠ [] := by
      intro hnil
      rw [hnil] at ha
      cases ha
    have hplace := hv'.place_of_filed hm (hv'.filed hne).2
    have htables := hv'.remembers _ ((hv'.steady m hm).find? hplace) _ fun _ => hv'.key m hm
    exact Site.call_interface_of_remembers (hv'.steady m hm) hopen htables ha config

/-- In a new home a store is opened, which makes the key, an interface is stored, and the store is
closed. The store that is opened after that finds the key, and reads the interface back. -/
theorem store_key_is_never_replaced_of_new_home :
    let home : Path := Path.ofText "home"
    let c : Config := {}
    let key : Bytes := List.replicate Key.size 0
    let addr : Address := .v4 ⟨0, Address.fullPrefix4⟩
    let i : Interface :=
      { id := 0, apiUrl := "", network := ⟨"", "", addr⟩
        device := { id := "", name := "", addr, publicKey := key }, key, deviceToken := [] }
    let v₀ : HomeState := ⟨{ entropy := ⟨fun _ _ => 0, 0⟩ }, []⟩
    let v₁ := v₀.perform Yaml.load home c (.openStore true)
    let v₂ := v₁.perform Yaml.load home c (.use 0 (.event (.call c (.ensure i))))
    let v₃ := v₂.perform Yaml.load home c (.use 0 (.event .close))
    let v₄ := v₃.perform Yaml.load home c (.openStore false)
    v₀.stores = [] ∧ v₄.stores.length = 2 ∧
      (∀ m ∈ v₄.stores, v₄.host.files.read (home / "store.key") = .ok m.store.key) ∧
      ∀ m, v₄.stores[1]? = some m →
        ((v₄.site m).call c (.interface 1)).1 = .ok (.interface { i with id := 1 }) := by
  intro home c key addr i v₀ v₁ v₂ v₃ v₄
  have h₀ : Home.Configures Yaml.load v₀.host.files home c :=
    Home.configures_of_missing (by decide +kernel)
  have h₁ : Home.Configures Yaml.load v₁.host.files home c :=
    Home.configures_of_missing (by decide +kernel)
  have h₂ : Home.Configures Yaml.load v₂.host.files home c :=
    Home.configures_of_missing (by decide +kernel)
  have h₃ : Home.Configures Yaml.load v₃.host.files home c :=
    Home.configures_of_missing (by decide +kernel)
  have hwritten : v₁.written (.use 0 (.event (.call c (.ensure i)))) = [{ i with id := 1 }] := by
    decide +kernel
  have hclosed : v₂.written (.use 0 (.event .close)) = [] := by decide +kernel
  have hrun₁ : Runs Yaml.load home c v₀ [] v₁ := Runs.refl.step (.openStore true) h₀
  have hrun₂ : Runs Yaml.load home c v₀ [{ i with id := 1 }] v₂ := by
    have h := hrun₁.step (.use 0 (.event (.call c (.ensure i)))) h₁
    rw [hwritten] at h
    exact h
  have hrun₃ : Runs Yaml.load home c v₀ [{ i with id := 1 }] v₃ := by
    have h := hrun₂.step (.use 0 (.event .close)) h₂
    rw [hclosed] at h
    exact h
  have hrun₄ : Runs Yaml.load home c v₀ [{ i with id := 1 }] v₄ := hrun₃.step (.openStore false) h₃
  have hnone : v₀.host.files.find? (v₀.host.files.goal (Path.ofText (home / c.dbFile).text)) =
      none := by decide +kernel
  have hsafe : KeySafe Yaml.load home c v₀ ([] ++ [{ i with id := 1 }]) v₄ :=
    store_key_is_never_replaced rfl (by decide +kernel)
      (fun t ht => absurd (hnone.symm.trans ht) nofun) .refl hrun₄
  refine ⟨rfl, by decide +kernel, fun m hm => (hsafe.oneKey m hm).2, fun m hm => ?_⟩
  have hopen : ((v₄.stores[1]?).map fun m => m.connection.closed) = some false := by decide +kernel
  rw [hm] at hopen
  exact hsafe.readBack m (List.mem_of_getElem? hm) (Option.some.inj hopen) _ (lastOn_singleton _) c

/-- A key file of 31 bytes is not what keeps the store closed if the configuration has a truth value that is
none: opening breaks off before it looks at the key. -/
theorem open_of_short_key_breaks_off :
    let home : Path := Path.ofText "home"
    let host : Host :=
      { entropy := ⟨fun _ _ => 0, 0⟩
        files :=
          { nodes := [(["home"], .directory), (["home", "store.key"], .plain (List.replicate 31 0)),
              (["home", "config"], .directory),
              (["home", "config", "config.yaml"], .plain Home.brokenText)] } }
    host.files.read (home / ({} : Config).keyFile) = .ok (List.replicate 31 0) ∧
      ∀ create, ∃ host', exec (Home.openStore home create) host =
        (.error (.unknownName "maybe"), host') := by
  intro home host
  have hconfig : host.files.read (Home.configFile home) = .ok Home.brokenText := rfl
  have hbroken : Home.configured Yaml.load host.files home = .error (.unknownName "maybe") := by
    rw [Home.configured_of_read hconfig, Home.ofBytes_brokenText]
    rfl
  refine ⟨rfl, fun create => ?_⟩
  obtain ⟨host', hopen, -⟩ := Home.exec_openStore_of_unreadable create hbroken
  exact ⟨host', hopen⟩

end HomeState

end MeshAgent
