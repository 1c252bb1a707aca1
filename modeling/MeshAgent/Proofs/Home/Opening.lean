import MeshAgent.Proofs.Home.Site

/-!
# Opening the store of a home

What an agent does to files adds to them: it puts something where nothing is yet, or a database at the
place of its database. All ways to files and directories stay open then, and whatever is not the database
stays as it is. This holds of the store key in particular, which is made at most once.
-/
namespace MeshAgent

namespace Files

/-! ## Files that grow -/

/-- The place that a path leads to, if it leads anywhere. -/
def goal (f : Files) (p : Path) : Place :=
  p.names.foldl (fun here name => if name = ".." then here.dropLast else here ++ [name])
    (if p.root = "" then f.workingDirectory else [])

variable {f g h : Files} {data : Place} {p : Path} {q : Place} {n : FileNode}

lemma eq_of_walk {here : Place} {names : List String} (hw : f.walk here names = .ok q) :
    q = names.foldl (fun here name => if name = ".." then here.dropLast else here ++ [name]) here := by
  induction names generalizing here with
  | nil => exact (Except.ok.inj hw).symm
  | cons name rest ih =>
    rw [walk] at hw
    split at hw
    · cases hw
    · exact ih hw
    · cases hw

lemma eq_goal (hp : f.place p = .ok q) : q = f.goal p := eq_of_walk hp

lemma node?_eq_ok : f.node? p = .ok n ↔
    p.hasNull = false ∧ f.place p = .ok (f.goal p) ∧ f.find? (f.goal p) = some n := by
  rw [node?]
  cases p.hasNull with
  | true => simp
  | false =>
    simp only [Bool.false_eq_true, if_false, true_and]
    cases hp : f.place p with
    | error problem => simp [bind, Except.bind]
    | ok q =>
      obtain rfl := eq_goal hp
      simp only [bind, Except.bind, true_and]
      cases f.find? (f.goal p) <;> simp

lemma isPresent_iff : f.isPresent p = true ↔ ∃ n, f.node? p = .ok n := by
  rw [isPresent]
  cases f.node? p <;> simp [Except.toOption]

lemma read_eq_ok {b : Bytes} : f.read p = .ok b ↔ ∃ n, f.node? p = .ok n ∧
    (n = .plain b ∨ (∃ t, n = .database t) ∧ b = List.replicate databaseBytes 0) := by
  rw [read]
  cases hnull : p.hasNull with
  | true => simp [node?, hnull]
  | false =>
    rw [if_neg Bool.false_ne_true]
    cases f.node? p with
    | error problem => simp [explain, bind, Except.bind]
    | ok n => cases n <;> simp [explain, bind, Except.bind, eq_comm]

/-- `g` are the files `f` after something has been put where nothing was, or a database with the property
`P` at the place `data`, any number of times. -/
inductive Grows (data : Place) (P : Tables → Prop) (f : Files) : Files → Prop
  | refl : Grows data P f f
  | made {g : Files} {q : Place} {n : FileNode} : Grows data P f g → g.find? q = none →
    (∀ t, n ≠ .database t) → Grows data P f (g.put q n)
  | stored {g : Files} {t : Tables} : Grows data P f g → g.find? data ≠ some .directory → P t →
    Grows data P f (g.put data (.database t))

namespace Grows

variable {P Q : Tables → Prop}

lemma trans (hfg : Grows data P f g) (hgh : Grows data P g h) : Grows data P f h := by
  induction hgh with
  | refl => exact hfg
  | made _ hnone hn ih => exact ih.made hnone hn
  | stored _ hdir ht ih => exact ih.stored hdir ht

lemma imp (hg : Grows data P f g) (hPQ : ∀ t, P t → Q t) : Grows data Q f g := by
  induction hg with
  | refl => exact .refl
  | made _ hnone hn ih => exact ih.made hnone hn
  | stored _ hdir ht ih => exact ih.stored hdir (hPQ _ ht)

lemma walk (hg : Grows data P f g) {here : Place} {names : List String}
    (hw : f.walk here names = .ok q) : g.walk here names = .ok q := by
  induction hg with
  | refl => exact hw
  | made _ hnone _ ih => exact walk_put (by simp [hnone]) _ ih
  | stored _ hdir _ ih => exact walk_put hdir _ ih

lemma workingDirectory (hg : Grows data P f g) : g.workingDirectory = f.workingDirectory := by
  induction hg with
  | refl => rfl
  | made _ _ _ ih => exact ih
  | stored _ _ _ ih => exact ih

lemma goal (hg : Grows data P f g) (p : Path) : g.goal p = f.goal p := by
  rw [Files.goal, hg.workingDirectory, Files.goal]

lemma place (hg : Grows data P f g) (hp : f.place p = .ok q) : g.place p = .ok q := by
  rw [Files.place, hg.workingDirectory]
  exact hg.walk hp

/-- Nothing is replaced, except that a database takes the place of what is at its place. -/
lemma find? (hg : Grows data P f g) (hq : f.find? q = some n) :
    g.find? q = some n ∨ q = data ∧ n ≠ .directory ∧ ∃ t, g.find? q = some (.database t) := by
  induction hg with
  | refl => exact .inl hq
  | @made g q' n' _ hnone _ ih =>
    have hne : q ≠ q' := by
      rintro rfl
      rcases ih with h | ⟨-, -, t, h⟩ <;> rw [hnone] at h <;> cases h
    rwa [find?_put_of_ne hne]
  | @stored g t _ hdir _ ih =>
    by_cases hd : q = data
    · subst hd
      refine .inr ⟨rfl, ?_, t, find?_put_self (ne_nil_of_find? hdir)⟩
      rintro rfl
      rcases ih with h | ⟨-, hne, -⟩
      · exact hdir h
      · exact hne rfl
    · rwa [find?_put_of_ne hd]

lemma node? (hg : Grows data P f g) (hp : f.goal p ≠ data) (hn : f.node? p = .ok n) :
    g.node? p = .ok n := by
  obtain ⟨hnull, hplace, hfind⟩ := node?_eq_ok.mp hn
  rw [node?_eq_ok, hg.goal]
  exact ⟨hnull, hg.place hplace, (hg.find? hfind).resolve_right fun h => hp h.1⟩

/-- What is read of a file stays so. -/
theorem read (hg : Grows data P f g) (hp : f.goal p ≠ data) {b : Bytes}
    (hb : f.read p = .ok b) : g.read p = .ok b := by
  obtain ⟨n, hn, hread⟩ := read_eq_ok.mp hb
  exact read_eq_ok.mpr ⟨n, hg.node? hp hn, hread⟩

/-- A database stays one. -/
lemma database (hg : Grows data P f g) {t : Tables} (hq : f.find? q = some (.database t)) :
    ∃ t', g.find? q = some (.database t') := by
  rcases hg.find? hq with h | ⟨-, -, h⟩
  · exact ⟨t, h⟩
  · exact h

/-- A database was there before, or has been put there. -/
lemma of_database (hg : Grows data P f g) {t : Tables} (hq : g.find? q = some (.database t)) :
    f.find? q = some (.database t) ∨ q = data ∧ P t := by
  induction hg with
  | refl => exact .inl hq
  | @made g q' n _ _ hn ih =>
    by_cases hd : q = q'
    · subst hd
      by_cases hroot : q = []
      · rw [Files.find?, if_pos hroot] at hq
        cases hq
      · rw [find?_put_self hroot] at hq
        exact absurd (Option.some.inj hq) (hn t)
    · rw [find?_put_of_ne hd] at hq
      exact ih hq
  | @stored g t' _ hdir ht ih =>
    by_cases hd : q = data
    · subst hd
      rw [find?_put_self (ne_nil_of_find? hdir)] at hq
      obtain rfl := FileNode.database.inj (Option.some.inj hq)
      exact .inr ⟨rfl, ht⟩
    · rw [find?_put_of_ne hd] at hq
      exact ih hq

end Grows

/-! ## Directories and new files -/

section

variable {P : Tables → Prop}

lemma target_eq_ok : f.target p = .ok q ↔ p.hasNull = false ∧ f.place p = .ok q := by
  rw [target]
  cases p.hasNull with
  | true => simp
  | false => cases f.place p <;> simp [explain]

lemma grows_makeOne (hg : f.makeOne p = .ok g) : Grows data P f g := by
  obtain ⟨q, -, hmake⟩ := Except.bind_eq_ok.mp hg
  split at hmake
  · exact Except.ok.inj hmake ▸ .refl
  · cases hmake
  · next hnone _ => exact Except.ok.inj hmake ▸ Grows.refl.made hnone nofun
  · cases hmake
  · cases hmake

lemma grows_makeUpTo {k : Nat} (hg : f.makeUpTo p k = .ok g) : Grows data P f g := by
  induction k generalizing g with
  | zero => exact Except.ok.inj hg ▸ .refl
  | succ k ih =>
    rw [makeUpTo] at hg
    split at hg
    · obtain ⟨f', hf', hmake⟩ := Except.bind_eq_ok.mp hg
      exact (ih hf').trans (grows_makeOne hmake)
    · exact grows_makeOne hg

lemma grows_makeDirectory (hg : f.makeDirectory p = .ok g) : Grows data P f g := grows_makeUpTo hg

/-- A new file is there afterwards. -/
lemma of_create {b : Bytes} (hg : f.create p b = .ok g) :
    Grows data P f g ∧ g.read p = .ok b := by
  obtain ⟨q, htarget, hcreate⟩ := Except.bind_eq_ok.mp hg
  obtain ⟨hnull, hplace⟩ := target_eq_ok.mp htarget
  split at hcreate
  · cases hcreate
  · next hnone =>
    rw [putPlain] at hcreate
    split at hcreate
    · obtain rfl := Except.ok.inj hcreate
      have hgrows : Grows data P f (f.put q (.plain b)) := Grows.refl.made hnone nofun
      obtain rfl := eq_goal hplace
      have hroot : f.goal p ≠ [] := @ne_nil_of_find? f _ (by simp [hnone])
      refine ⟨hgrows, read_eq_ok.mpr ⟨_, node?_eq_ok.mpr ⟨hnull, ?_, ?_⟩, .inl rfl⟩⟩
      · rw [hgrows.goal]
        exact hgrows.place hplace
      · rw [hgrows.goal]
        exact find?_put_self hroot
    · cases hcreate
    · cases hcreate

end

/-- A database that is written to opens no way and closes none. -/
lemma isPresent_put_database {t t' : Tables} (ht : f.find? data = some (.database t)) (p : Path)
    (hp : f.goal p ≠ data) : (f.put data (.database t')).isPresent p = f.isPresent p := by
  have hroot : data ≠ [] := @ne_nil_of_find? f _ (by simp [ht])
  have hwalk : ∀ (names : List String) (here : Place),
      (f.put data (.database t')).walk here names = f.walk here names := by
    intro names
    induction names with
    | nil => exact fun _ => rfl
    | cons name rest ih =>
      intro here
      rw [walk, walk]
      by_cases hd : here = data
      · rw [hd, find?_put_self hroot, ht]
      · rw [find?_put_of_ne hd]
        simp only [ih]
  have hplace : (f.put data (.database t')).place p = f.place p := hwalk _ _
  rw [isPresent, isPresent, node?, node?, hplace]
  cases p.hasNull with
  | true => rfl
  | false =>
    cases hq : f.place p with
    | error problem => rfl
    | ok q =>
      obtain rfl := eq_goal hq
      simp only [bind, Except.bind, find?_put_of_ne hp]

end Files

/-! ## Keys and configurations -/

namespace Home

open Files

variable {home p : Path} {host : Host} {data : Place} {P : Tables → Prop}

lemma exec_look {α : Type} (look : Files → Except Failure α) (host : Host) :
    exec (HostM.look look) host = (look host.files, host) := by
  simp only [HostM.look, exec_bind, exec_get, exec_lift]

lemma exec_change (change : Files → Except Failure Files) (host : Host) :
    exec (HostM.change change) host =
      match change host.files with
      | .ok files => (.ok (), { host with files })
      | .error f => (.error f, host) := by
  simp only [HostM.change, exec_bind, exec_look]
  cases change host.files <;> rfl

/-- The settings that a text comes to. One that is refused leaves them at their defaults. -/
def settled : Except Yaml.Problem Config → Except Failure Config
  | .ok c => .ok c
  | .error .refused => .ok {}
  | .error (.broken f) => .error f

/-- The configuration that the files of a home hold. -/
def configured (reader : Yaml.Reader) (f : Files) (home : Path) : Except Failure Config :=
  if f.isPresent (configFile home) then do
    let bytes ← f.read (configFile home)
    settled (Config.ofBytes reader bytes)
  else .ok {}

lemma configured_of_read {reader : Yaml.Reader} {f : Files} {bytes : Bytes}
    (h : f.read (configFile home) = .ok bytes) :
    configured reader f home = settled (Config.ofBytes reader bytes) := by
  obtain ⟨n, hn, -⟩ := read_eq_ok.mp h
  rw [configured, if_pos (isPresent_iff.mpr ⟨n, hn⟩), h]
  rfl

/-- The text of a truth value that is none. -/
def brokenText : Bytes := Bytes.ofText "x: !!bool maybe"

lemma ofBytes_brokenText :
    Config.ofBytes Yaml.load brokenText = .error (.broken (.unknownName "maybe")) := by
  have hproblem : (match Config.ofBytes Yaml.load brokenText with
      | .ok _ => none
      | .error problem => some problem) = some (.broken (.unknownName "maybe")) := by
    decide +kernel
  cases h : Config.ofBytes Yaml.load brokenText with
  | ok c => simp [h] at hproblem
  | error problem =>
    rw [h] at hproblem
    rw [Option.some.inj hproblem]

lemma exec_loadConfig (reader : Yaml.Reader) (home : Path) (host : Host) :
    ∃ host', exec (loadConfig home reader) host = (configured reader host.files home, host') ∧
      host'.files = host.files := by
  rw [loadConfig, configured, exec_bind]
  simp only [exec_get]
  cases host.files.isPresent (configFile home) with
  | false => exact ⟨host, rfl, rfl⟩
  | true =>
    have hlook := exec_look (fun f => f.read (configFile home)) host
    simp only [if_true, Bool.not_true, Bool.false_eq_true, if_false]
    rw [exec_bind, hlook]
    cases host.files.read (configFile home) with
    | error f => exact ⟨host, rfl, rfl⟩
    | ok bytes =>
      simp only [bind, Except.bind]
      rcases Config.ofBytes reader bytes with (_ | f) | c
      · exact ⟨_, rfl, rfl⟩
      · exact ⟨host, rfl, rfl⟩
      · exact ⟨host, rfl, rfl⟩

/-- What is wrong with a key file of another length. -/
def wrongLength (p : Path) (key : Bytes) : Failure :=
  .agent { kind := .crypto, reason := .storeKeyLength key.length, activity := some .loadStoreKey
           entity := some p.text }

/-- The store key in a file. -/
def keyIn (f : Files) (p : Path) : Except Failure Bytes := do
  let key ← f.read p
  if key.length = SecretBox.keySize then return key
  throw (wrongLength p key)

lemma keyIn_of_wrong {f : Files} {b : Bytes} (hread : f.read p = .ok b)
    (hb : b.length ≠ SecretBox.keySize) : keyIn f p = .error (wrongLength p b) := by
  rw [keyIn, hread]
  simp only [bind, Except.bind, if_neg hb]
  rfl

lemma keyIn_of_missing {f : Files} (h : f.isPresent p = false) : ∃ e, keyIn f p = .error e := by
  rw [keyIn]
  cases hread : f.read p with
  | error e => exact ⟨e, rfl⟩
  | ok b =>
    obtain ⟨n, hn, -⟩ := read_eq_ok.mp hread
    cases h.symm.trans (isPresent_iff.mpr ⟨n, hn⟩)

lemma keyIn_eq_ok {f : Files} {key : Bytes} :
    keyIn f p = .ok key ↔ f.read p = .ok key ∧ key.length = SecretBox.keySize := by
  rw [keyIn]
  cases f.read p with
  | error e => simp [bind, Except.bind]
  | ok b =>
    by_cases hb : b.length = SecretBox.keySize
    · simp only [bind, Except.bind, if_pos hb, Except.ok.injEq]
      exact ⟨fun h => Except.ok.inj h ▸ ⟨rfl, hb⟩, fun h => congrArg _ h.1⟩
    · simp only [bind, Except.bind, if_neg hb, Except.ok.injEq]
      exact ⟨fun h => (nomatch h), fun h => absurd (h.1 ▸ h.2) hb⟩

lemma exec_loadStoreKey (p : Path) (host : Host) :
    exec (loadStoreKey p) host = (keyIn host.files p, host) := by
  rw [loadStoreKey, keyIn, exec_bind, exec_look]
  cases host.files.read p with
  | error f => rfl
  | ok key =>
    by_cases hkey : key.length = SecretBox.keySize
    · simp only [bind, Except.bind, if_pos hkey]
      rfl
    · simp only [bind, Except.bind, if_neg hkey]
      rfl

/-- Asks for the store key, which is made if `create` is given. -/
abbrev takeKey (create : Bool) (p : Path) : HostM Bytes :=
  if create then loadOrCreateStoreKey p else loadStoreKey p

/-- A key file that is there is read and nothing else. -/
lemma exec_takeKey_of_present {create : Bool}
    (h : create = false ∨ host.files.isPresent p = true) :
    exec (takeKey create p) host = (keyIn host.files p, host) := by
  cases create with
  | false => exact exec_loadStoreKey p host
  | true =>
    have hpresent := h.resolve_left nofun
    rw [takeKey, if_pos rfl, loadOrCreateStoreKey, exec_bind, exec_get]
    simp only [hpresent, if_true]
    exact exec_loadStoreKey p host

/-- A key file that is missing is made with a new key, or nothing but directories is made. -/
lemma exec_takeKey_of_missing (h : host.files.isPresent p = false) :
    ∃ outcome host', exec (takeKey true p) host = (outcome, host') ∧
      Grows data P host.files host'.files ∧
      ∀ key, outcome = .ok key → host'.files.read p = .ok key ∧ key.length = SecretBox.keySize := by
  rw [takeKey, if_pos rfl, loadOrCreateStoreKey, exec_bind, exec_get]
  simp only [h, Bool.false_eq_true, if_false, exec_bind, exec_change]
  cases hmake : host.files.makeDirectory p.parent with
  | error f => exact ⟨_, _, rfl, .refl, nofun⟩
  | ok files =>
    have hgrows : Grows data P host.files files := grows_makeDirectory hmake
    simp only [HostM.random, exec_modifyGet]
    cases hcreate : files.create p (Secret.generateKey host.entropy).1 with
    | error f => exact ⟨_, _, rfl, hgrows, nofun⟩
    | ok files' =>
      obtain ⟨hcreated, hread⟩ := @of_create _ _ data _ P _ hcreate
      refine ⟨_, _, rfl, hgrows.trans hcreated, fun key hkey => ?_⟩
      obtain rfl := Except.ok.inj hkey
      exact ⟨hread, Entropy.length_draw _ _⟩

/-- Asking for the key adds to the files, and a key that is got is in its file. -/
theorem exec_takeKey (create : Bool) (p : Path) (host : Host) :
    ∃ outcome host', exec (takeKey create p) host = (outcome, host') ∧
      Grows data P host.files host'.files ∧
      ∀ key, outcome = .ok key → host'.files.read p = .ok key ∧ key.length = SecretBox.keySize := by
  by_cases h : create = false ∨ host.files.isPresent p = true
  · exact ⟨_, _, exec_takeKey_of_present h, .refl, fun key => keyIn_eq_ok.mp⟩
  · obtain ⟨hcreate, hmissing⟩ := not_or.mp h
    obtain rfl : create = true := by simpa using hcreate
    exact exec_takeKey_of_missing (Bool.eq_false_iff.mpr hmissing)

/-! ## The database -/

/-- An empty database, where there was none. -/
def NewIn (f : Files) (data : Place) (t : Tables) : Prop :=
  t = {} ∧ ∀ t', f.find? data ≠ some (.database t')

lemma exec_connect (path : String) (host : Host) (hdata : host.files.goal (Path.ofText path) = data) :
    ∃ outcome host', exec (connect path) host = (outcome, host') ∧
      Grows data (NewIn host.files data) host.files host'.files := by
  rw [connect]
  by_cases hmemory : path = "" ∨ path = memoryPath
  · rw [if_pos hmemory]
    exact ⟨_, _, rfl, .refl⟩
  · cases (Path.ofText path).hasNull with
    | true => exact ⟨.error .nullInPath, host, by simp [hmemory], .refl⟩
    | false =>
      simp only [if_neg hmemory, Bool.false_eq_true, if_false, exec_bind, exec_get]
      cases hplace : host.files.place (Path.ofText path) with
      | error problem => exact ⟨_, _, rfl, .refl⟩
      | ok place =>
        obtain rfl : place = data := (eq_goal hplace).trans hdata
        simp only
        have hmade : host.files.find? place ≠ some .directory →
            (∀ t, host.files.find? place ≠ some (.database t)) →
            ∃ outcome host', exec (do
              HostM.change fun f => .ok (f.put place (.database {}))
              return some place) host = (outcome, host') ∧
            Grows place (NewIn host.files place) host.files host'.files := by
          intro hdir hnone
          rw [exec_bind, exec_change]
          exact ⟨_, _, rfl, Grows.refl.stored hdir ⟨rfl, hnone⟩⟩
        generalize hfound : host.files.find? place = found at hmade
        generalize host.files.find? place.dropLast = parent
        rcases found with _ | (_ | (_ | ⟨_, _ | _⟩) | t)
        case some.directory => exact ⟨_, _, rfl, .refl⟩
        case some.plain.cons.cons => exact ⟨_, _, rfl, .refl⟩
        case some.database => exact ⟨_, _, rfl, .refl⟩
        all_goals
          rcases parent with _ | (_ | _ | _)
          case some.directory => exact hmade (by simp) (by simp)
          all_goals exact ⟨_, _, rfl, .refl⟩

/-- The database of a home, whose directory is made if it is missing. -/
lemma exec_openDatabase_in {path : String} {key : Bytes} (hkey : key.length = SecretBox.keySize)
    (hdata : host.files.goal (Path.ofText path) = data) :
    ∃ outcome host', exec (do
        HostM.change fun f => f.makeDirectory home
        openDatabase path key) host = (outcome, host') ∧
      Grows data (NewIn host.files data) host.files host'.files ∧
      ∀ m, outcome = .ok m → m.store = ⟨path, key⟩ ∧ Site.Opened ⟨m, host'⟩ := by
  have hchange := exec_change (fun f => f.makeDirectory home) host
  cases hmake : host.files.makeDirectory home with
  | error f =>
    rw [hmake] at hchange
    exact ⟨_, _, exec_bind_error hchange, .refl, fun m hm => by cases hm⟩
  | ok files =>
    rw [hmake] at hchange
    rw [exec_bind_ok hchange]
    have hmade : Grows data (NewIn host.files data) host.files files := grows_makeDirectory hmake
    obtain ⟨place, host', hconnect, hconnected⟩ :=
      exec_connect path { host with files } ((hmade.goal _).trans hdata)
    have hgrows := hmade.trans (hconnected.imp fun t ht => ⟨ht.1, fun t' ht' =>
      (hmade.database ht').elim ht.2⟩)
    have hopen := exec_openDatabase hkey hconnect
    cases place with
    | error f => exact ⟨_, _, hopen, hgrows, fun m hm => by cases hm⟩
    | ok place =>
      refine ⟨_, _, hopen, hgrows, fun m hm => ?_⟩
      obtain rfl := Except.ok.inj hm
      exact ⟨rfl, _, _, _, hopen⟩

/-! ## The store -/

/-- What is loaded as the configuration of the home can only be `c`. -/
def Configures (reader : Yaml.Reader) (f : Files) (home : Path) (c : Config) : Prop :=
  ∀ c', configured reader f home = .ok c' → c' = c

variable {reader : Yaml.Reader} {c : Config} {create : Bool}

lemma configures_of_missing {f : Files} (h : f.isPresent (configFile home) = false) :
    Configures reader f home {} := by
  intro c' hc'
  rw [configured, h, if_neg Bool.false_ne_true] at hc'
  exact (Except.ok.inj hc').symm

lemma openStore_eq (reader : Yaml.Reader) (home : Path) (create : Bool) :
    openStore home create reader = (do
      let c ← loadConfig home reader
      let key ← takeKey create (home / c.keyFile)
      HostM.change fun f => f.makeDirectory home
      openDatabase (home / c.dbFile).text key) := by
  cases create <;> rfl

lemma exec_openStore_of_unreadable (create : Bool) {f : Failure}
    (hc : configured reader host.files home = .error f) :
    ∃ host', exec (openStore home create reader) host = (.error f, host') ∧ host'.files = host.files := by
  obtain ⟨host', hload, hfiles⟩ := exec_loadConfig reader home host
  rw [hc] at hload
  exact ⟨host', by rw [openStore_eq]; exact exec_bind_error hload, hfiles⟩

/-- If the key file is not to be made and holds no key, nothing is opened and nothing is changed. -/
theorem exec_openStore_of_keyless (hc : configured reader host.files home = .ok c)
    (hpresent : create = false ∨ host.files.isPresent (home / c.keyFile) = true) {f : Failure}
    (hkey : keyIn host.files (home / c.keyFile) = .error f) :
    ∃ host', exec (openStore home create reader) host = (.error f, host') ∧ host'.files = host.files := by
  obtain ⟨host', hload, hfiles⟩ := exec_loadConfig reader home host
  rw [hc] at hload
  have htake : exec (takeKey create (home / c.keyFile)) host' = (.error f, host') := by
    rw [← hfiles] at hpresent hkey
    rw [exec_takeKey_of_present hpresent, hkey]
  refine ⟨host', ?_, hfiles⟩
  rw [openStore_eq, exec_bind_ok hload]
  exact exec_bind_error htake

/-- Opening the store of a home adds to the files, its database included. A store that is opened has the
key that is in the key file. -/
theorem exec_openStore (create : Bool) (hc : Configures reader host.files home c)
    (hdata : host.files.goal (Path.ofText (home / c.dbFile).text) = data)
    (hapart : host.files.goal (home / c.keyFile) ≠ data) :
    ∃ outcome host', exec (openStore home create reader) host = (outcome, host') ∧
      Grows data (NewIn host.files data) host.files host'.files ∧
      ∀ m, outcome = .ok m → host'.files.read (home / c.keyFile) = .ok m.store.key ∧
        m.store.path = (home / c.dbFile).text ∧ Site.Opened ⟨m, host'⟩ := by
  cases hconfigured : configured reader host.files home with
  | error f =>
    obtain ⟨host', hexec, hfiles⟩ := exec_openStore_of_unreadable create hconfigured
    exact ⟨.error f, host', hexec, by rw [hfiles]; exact .refl, fun m hm => by cases hm⟩
  | ok c' =>
    obtain rfl := hc c' hconfigured
    obtain ⟨host₁, hload, hfiles⟩ := exec_loadConfig reader home host
    rw [hconfigured] at hload
    rw [openStore_eq, exec_bind_ok hload]
    obtain ⟨taken, host₂, htake, htaken, hread⟩ :=
      @exec_takeKey data (NewIn host.files data) create (home / c'.keyFile) host₁
    rw [hfiles] at htaken
    cases taken with
    | error f => exact ⟨_, _, exec_bind_error htake, htaken, fun m hm => by cases hm⟩
    | ok key =>
      obtain ⟨hkeyFile, hlength⟩ := hread key rfl
      rw [exec_bind_ok htake]
      obtain ⟨outcome, host', hopen, hopened, hstore⟩ :=
        @exec_openDatabase_in home host₂ data _ key hlength ((htaken.goal _).trans hdata)
      refine ⟨outcome, host', hopen, htaken.trans (hopened.imp fun t ht => ⟨ht.1, fun t' ht' =>
        (htaken.database ht').elim ht.2⟩), fun m hm => ?_⟩
      obtain ⟨hm, hsite⟩ := hstore m hm
      rw [hm]
      exact ⟨hopened.read (fun h => hapart ((htaken.goal _).symm.trans h)) hkeyFile, rfl, hsite⟩

end Home

end MeshAgent
