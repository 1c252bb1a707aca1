import MeshAgent.CommandLine.Run
import MeshAgent.Proofs.Home.Opening
import MeshAgent.Proofs.Store.Refusals

/-!
# Looking at a home

A store that is opened without making a key leaves its home as it is, but for an empty database where
there was none. The database cannot get in the way of the configuration or of the key: files that say
something are no place for a database, and a configuration that says nothing leaves the database its
own name.
-/
namespace MeshAgent

lemma Text.pieces_behind (mark : Char) (a b : List Char) :
    ∃ p ps, Text.pieces mark (a ++ mark :: b) = p :: ps ++ Text.pieces mark b := by
  induction a with
  | nil => exact ⟨[], [], by simp [Text.pieces]⟩
  | cons c a ih =>
    obtain ⟨p, ps, hps⟩ := ih
    rw [List.cons_append, Text.pieces, hps]
    split
    · exact ⟨[], p :: ps, rfl⟩
    · exact ⟨c :: p, ps, rfl⟩

namespace Path

/-- The root of the path is empty or ends with a slash. -/
def IsRooted (p : Path) : Prop := p.root = "" ∨ ∃ r, p.root.toList = r ++ ['/']

lemma isRooted_ofText (text : String) : (ofText text).IsRooted := by
  simp only [IsRooted, ofText]
  split_ifs
  · exact .inl rfl
  · exact .inr ⟨['/'], rfl⟩
  · exact .inr ⟨[], rfl⟩

lemma isRooted_expandUser {p userHome q : Path} (hp : p.IsRooted) (huser : userHome.IsRooted)
    (h : p.expandUser userHome = .ok q) : q.IsRooted := by
  rw [expandUser] at h
  split at h
  · exact Except.ok.inj h ▸ huser
  · split at h
    · cases h
    · exact Except.ok.inj h ▸ hp
  · exact Except.ok.inj h ▸ hp

lemma slash_eq {name : String} (h : (ofText name).root = "") (p : Path) :
    p / name = ⟨p.root, p.names ++ (ofText name).names⟩ := if_pos h

/-- A path that is printed and read again still leads to a file of the same name. -/
lemma getLast?_names_ofText {p : Path} (hp : p.IsRooted) (name : String) (hslash : '/' ∉ name.toList)
    (hempty : name ≠ "") (hdot : name ≠ ".") :
    (ofText (⟨p.root, p.names ++ [name]⟩ : Path).text).names.getLast? = some name := by
  have hpieces : Text.pieces '/' name.toList = [name.toList] := Text.pieces_of_not_mem hslash
  have hlast : ∀ ps : List (List Char), ((ps ++ [name.toList]).map String.ofList |>.filter
      fun n => n ≠ "" ∧ n ≠ ".").getLast? = some name := by
    intro ps
    simp [hempty, hdot]
  have hne : p.names ++ [name] ≠ [] := by simp
  have hbehind : ∃ before, (⟨p.root, p.names ++ [name]⟩ : Path).text.toList =
      before ++ name.toList ∧ (before = [] ∨ ∃ r, before = r ++ ['/']) := by
    rw [text, if_neg fun h => hne h.2]
    by_cases hnames : p.names = []
    · refine ⟨p.root.toList, by simp [hnames], ?_⟩
      exact hp.imp (fun h => by rw [h]; rfl) id
    · refine ⟨p.root.toList ++ (String.intercalate "/" p.names).toList ++ ['/'], ?_, .inr ⟨_, rfl⟩⟩
      rw [String.intercalate_append_of_ne_nil hnames (by simp)]
      simp
  obtain ⟨before, htext, hbefore⟩ := hbehind
  simp only [ofText, htext]
  obtain rfl | ⟨r, rfl⟩ := hbefore
  · rw [List.nil_append, hpieces]
    exact hlast []
  · obtain ⟨q, qs, hqs⟩ := Text.pieces_behind '/' r name.toList
    rw [List.append_assoc, List.singleton_append, hqs, hpieces]
    exact hlast (q :: qs)

end Path

namespace Files

variable {f : Files} {p : Path} {data : Place} {t : Tables} {n : FileNode}

/-! ## Ways through the files -/

/-- Only directories can be walked through. -/
lemma walk_append {here q : Place} {names more : List String} (hmore : more ≠ [])
    (h : f.walk here (names ++ more) = .ok q) :
    ∃ d, f.walk here names = .ok d ∧ f.find? d = some .directory := by
  induction names generalizing here with
  | nil =>
    obtain ⟨name, rest, rfl⟩ := List.exists_cons_of_ne_nil hmore
    rw [List.nil_append, walk] at h
    split at h
    · cases h
    · next hdir => exact ⟨here, rfl, hdir⟩
    · cases h
  | cons name rest ih =>
    rw [List.cons_append, walk] at h
    rw [walk]
    split at h
    · cases h
    · exact ih h
    · cases h

/-- What holds something is a directory. -/
lemma node?_of_below {names : List String} (hnames : names ≠ [])
    (h : f.node? ⟨p.root, p.names ++ names⟩ = .ok n) : f.node? p = .ok .directory := by
  obtain ⟨hnull, hplace, -⟩ := node?_eq_ok.mp h
  obtain ⟨d, hwalk, hdir⟩ := walk_append hnames hplace
  obtain rfl : d = f.goal p := eq_goal hwalk
  rw [Path.hasNull, List.any_append, Bool.or_eq_false_iff] at hnull
  exact node?_eq_ok.mpr ⟨hnull.1, hwalk, hdir⟩

/-- A directory that is there is not made again. -/
lemma makeDirectory_of_directory (h : f.node? p = .ok .directory) : f.makeDirectory p = .ok f := by
  obtain ⟨hnull, hplace, hdir⟩ := node?_eq_ok.mp h
  rw [makeDirectory]
  cases hnames : p.names.length with
  | zero => rfl
  | succ k =>
    have hpart : (⟨p.root, p.names.take (k + 1)⟩ : Path) = p := by
      rw [← hnames, List.take_length]
    have hmake : f.makeOne p = .ok f := by
      rw [makeOne, target_eq_ok.mpr ⟨hnull, hplace⟩]
      simp only [bind, Except.bind, hdir]
    rw [makeUpTo]
    simp only [hpart, hmake]

lemma walk_of_put_database {here q : Place} {names : List String} (hroot : data ≠ [])
    (h : (f.put data (.database t)).walk here names = .ok q) : f.walk here names = .ok q := by
  induction names generalizing here with
  | nil => exact h
  | cons name rest ih =>
    rw [walk] at h ⊢
    by_cases hhere : here = data
    · rw [hhere, find?_put_self hroot] at h
      cases h
    · rw [find?_put_of_ne hhere] at h
      split at h
      · cases h
      · exact ih h
      · cases h

/-- A database in the place of no directory opens no way and closes none. -/
lemma toOption_node?_put_database (hdir : f.find? data ≠ some .directory) (hp : f.goal p ≠ data) :
    ((f.put data (.database t)).node? p).toOption = (f.node? p).toOption := by
  have hgrows : Grows data (fun _ => True) f (f.put data (.database t)) :=
    Grows.refl.stored hdir trivial
  have hiff : ∀ n, (f.put data (.database t)).node? p = .ok n ↔ f.node? p = .ok n := by
    refine fun n => ⟨fun h => ?_, hgrows.node? hp⟩
    obtain ⟨hnull, hplace, hfind⟩ := node?_eq_ok.mp h
    rw [hgrows.goal] at hplace hfind
    rw [find?_put_of_ne hp] at hfind
    exact node?_eq_ok.mpr ⟨hnull, walk_of_put_database (ne_nil_of_find? hdir) hplace, hfind⟩
  have hsome : ∀ (x : Except OsProblem FileNode) n, x.toOption = some n ↔ x = .ok n := by
    intro x n
    cases x <;> simp [Except.toOption]
  refine Option.ext fun n => ?_
  rw [hsome, hsome, hiff]

/-- A way leads to a place that is called as its last name. -/
lemma getLast?_goal {name : String} (h : p.names.getLast? = some name) (hdots : name ≠ "..") :
    (f.goal p).getLast? = some name := by
  obtain ⟨names, hnames⟩ := List.getLast?_eq_some_iff.mp h
  rw [goal, hnames, List.foldl_append, List.foldl_cons, if_neg hdots]
  exact List.getLast?_concat

end Files

/-- A text of one character or none has no room for the name of an entry and its colon. -/
def Yaml.Reader.NeedsRoom (reader : Yaml.Reader) : Prop :=
  ∀ cs : List Char, cs.length ≤ 1 → ∀ fields, reader cs ≠ .ok (.record fields)

namespace Config

lemma length_plainLineEnds_le (cs : List Char) : (plainLineEnds cs).length ≤ cs.length := by
  fun_induction plainLineEnds cs <;> simp only [List.length_cons, List.length_nil] at * <;> omega

/-- A file that is as good as empty leaves all settings at their defaults, if they are read at all. -/
lemma ofBytes_of_short {reader : Yaml.Reader} {c : Config} {b : Bytes} (hreader : reader.NeedsRoom)
    (hb : b.length ≤ 1) (h : ofBytes reader b = .ok c) : c = {} := by
  rw [ofBytes] at h
  cases htext : Bytes.toText? b with
  | none =>
    rw [htext] at h
    cases h
  | some s =>
    have hlength : (plainLineEnds s.toList).length ≤ 1 := by
      have hchars := length_plainLineEnds_le s.toList
      have hbytes := Bytes.length_le_of_toText? htext
      rw [String.length_toList] at hchars
      omega
    rw [htext] at h
    simp only [Yaml.orRefused_some, bind, Except.bind, ofText] at h
    cases hread : reader (plainLineEnds s.toList) with
    | error problem =>
      rw [hread] at h
      cases h
    | ok d =>
      rw [hread] at h
      simp only at h
      cases hempty : d.isEmpty with
      | true =>
        rw [hempty] at h
        exact (Except.ok.inj h).symm
      | false =>
        rw [hempty, if_neg Bool.false_ne_true] at h
        cases d with
        | record fields => exact absurd hread (hreader _ hlength fields)
        | _ => cases h

end Config

namespace Home

open Files CommandLine

variable {reader : Yaml.Reader} {home : Path} {host : Host} {f : Files} {c : Config} {q : Place}

/-- Something can be put there without harm: there is nothing, or a file that is as good as empty. -/
def Vacant (f : Files) (q : Place) : Prop :=
  f.find? q = none ∨ ∃ b : Bytes, f.find? q = some (.plain b) ∧ b.length ≤ 1

lemma Vacant.not_directory (h : Vacant f q) : f.find? q ≠ some .directory := by
  rcases h with h | ⟨b, h, -⟩ <;> rw [h] <;> exact nofun

lemma Vacant.not_database (h : Vacant f q) (t : Tables) : f.find? q ≠ some (.database t) := by
  rcases h with h | ⟨b, h, -⟩ <;> rw [h] <;> exact nofun

lemma configFile_eq (home : Path) :
    configFile home = ⟨home.root, home.names ++ ["config", "config.yaml"]⟩ := by
  rw [configFile, Path.slash_eq rfl, Path.slash_eq rfl, List.append_assoc]
  rfl

/-- A configuration that says nothing is the default one. -/
lemma configured_of_vacant (hreader : reader.NeedsRoom) (h : Vacant f (f.goal (configFile home)))
    (hc : configured reader f home = .ok c) : c = {} := by
  rw [configured] at hc
  split at hc
  · rename_i hpresent
    obtain ⟨n, hn⟩ := isPresent_iff.mp hpresent
    obtain ⟨-, -, hfind⟩ := node?_eq_ok.mp hn
    rcases h with h | ⟨b, h, hb⟩
    · rw [hfind] at h
      cases h
    · rw [hfind] at h
      obtain rfl := Option.some.inj h
      rw [read_eq_ok.mpr ⟨_, hn, .inl rfl⟩] at hc
      have hsettled : settled (Config.ofBytes reader b) = .ok c := hc
      rcases hload : Config.ofBytes reader b with (_ | e) | c' <;> rw [hload] at hsettled
      · exact (Except.ok.inj hsettled).symm
      · cases hsettled
      · obtain rfl := Except.ok.inj hsettled
        exact Config.ofBytes_of_short hreader hb hload
  · exact (Except.ok.inj hc).symm

/-- A place for a new database is not that of the configuration. -/
lemma goal_configFile_ne (hreader : reader.NeedsRoom) (hhome : home.IsRooted)
    (hc : configured reader f home = .ok c)
    (hq : q = f.goal (Path.ofText (home / c.dbFile).text)) (hvacant : Vacant f q) :
    f.goal (configFile home) ≠ q := by
  rintro rfl
  obtain rfl := configured_of_vacant hreader hvacant hc
  have hdata : home / ({} : Config).dbFile = ⟨home.root, home.names ++ ["meshgarden.db"]⟩ :=
    Path.slash_eq rfl home
  have hconfig : (f.goal (configFile home)).getLast? = some "config.yaml" :=
    getLast?_goal (by rw [configFile_eq]; simp) (by decide)
  have hname := Path.getLast?_names_ofText hhome "meshgarden.db" (by decide) (by decide) (by decide)
  have hlast := getLast?_goal (f := f) hname (by decide)
  rw [← hdata, ← hq, hconfig] at hlast
  exact absurd hlast (by decide)

/-- A place for a new database is not that of the key. -/
lemma goal_keyFile_ne {key : Bytes} (hkey : keyIn f (home / c.keyFile) = .ok key)
    (hvacant : Vacant f q) : f.goal (home / c.keyFile) ≠ q := by
  rintro rfl
  obtain ⟨hread, hlength⟩ := keyIn_eq_ok.mp hkey
  obtain ⟨n, hn, hplain⟩ := read_eq_ok.mp hread
  obtain ⟨-, -, hfind⟩ := node?_eq_ok.mp hn
  rcases hvacant with h | ⟨b, h, hb⟩
  · rw [hfind] at h
    cases h
  · rw [hfind] at h
    obtain rfl := Option.some.inj h
    obtain hplain | ⟨⟨t, ht⟩, -⟩ := hplain
    · obtain rfl := FileNode.plain.inj hplain
      rw [hlength] at hb
      exact absurd hb (by decide)
    · cases ht

/-- The home itself is there if its key could be read. -/
lemma directory_of_key {key : Bytes} (hc : configured reader f home = .ok c)
    (hkey : keyIn f (home / c.keyFile) = .ok key) : f.node? home = .ok .directory := by
  rw [configured] at hc
  split at hc
  · rename_i hpresent
    obtain ⟨n, hn⟩ := isPresent_iff.mp hpresent
    rw [configFile_eq] at hn
    exact node?_of_below (List.cons_ne_nil _ _) hn
  · obtain rfl := Except.ok.inj hc
    obtain ⟨n, hn, -⟩ := read_eq_ok.mp (keyIn_eq_ok.mp hkey).1
    rw [Path.slash_eq rfl] at hn
    exact node?_of_below (by decide) hn

/-- A failure that is none of the agent or the system: the configuration breaks its reading off, or a
path in it has a null character. -/
def Breaks (reader : Yaml.Reader) (f : Files) (home : Path) (e : Failure) : Prop :=
  e = .nullInPath ∨
    ∃ bytes, f.read (configFile home) = .ok bytes ∧ Config.ofBytes reader bytes = .error (.broken e)

lemma isExplained_of_unread {p : Path} {e : Failure} (h : f.read p = .error e) :
    isExplained e = true ∨ e = .nullInPath := by
  rw [Files.read] at h
  split at h
  · exact .inr (Except.error.inj h).symm
  · left
    cases hn : f.node? p with
    | error problem =>
      rw [hn] at h
      exact Except.error.inj h ▸ rfl
    | ok n =>
      rw [hn] at h
      cases n with
      | directory => exact Except.error.inj h ▸ rfl
      | plain content => cases h
      | database t => cases h

/-! ## What is left of the files -/

/-- A place beside the database of a home, which the database uses for itself. -/
def Beside (reader : Yaml.Reader) (f : Files) (home : Path) (q : Place) : Prop :=
  ∃ c, configured reader f home = .ok c ∧
    q ∈ sideFiles (f.goal (Path.ofText (home / c.dbFile).text))

/-- What a look at a home leaves of the files, apart from those beside its database. -/
structure Looked (reader : Yaml.Reader) (home : Path) (before after : Files) : Prop where
  configuration :
    (after.node? (configFile home)).toOption = (before.node? (configFile home)).toOption
  /-- The key file stays as it is; in particular, it is not made if it is missing. -/
  key : ∀ c, configured reader before home = .ok c →
    ¬ Beside reader before home (before.goal (home / c.keyFile)) →
      (after.node? (home / c.keyFile)).toOption = (before.node? (home / c.keyFile)).toOption
  /-- All rows of all tables of all databases stay as they are, and so do the counters of ids. -/
  stored : ∀ q t, ¬ Beside reader before home q →
    before.find? q = some (.database t) → after.find? q = some (.database t)
  /-- Nothing is made but empty databases. -/
  made : ∀ q, ¬ Beside reader before home q → after.find? q ≠ before.find? q →
    Vacant before q ∧ after.find? q = some (.database {})

lemma Looked.refl (reader : Yaml.Reader) (home : Path) (f : Files) : Looked reader home f f :=
  ⟨rfl, fun _ _ _ => rfl, fun _ _ _ h => h, fun _ _ h => absurd rfl h⟩

/-- A new database is all that a look makes. -/
lemma looked_put {key : Bytes} (hreader : reader.NeedsRoom) (hhome : home.IsRooted)
    (hc : configured reader f home = .ok c)
    (hkey : keyIn f (home / c.keyFile) = .ok key)
    (hq : q = f.goal (Path.ofText (home / c.dbFile).text)) (hvacant : Vacant f q) :
    Looked reader home f (f.put q (.database {})) := by
  have hdir := hvacant.not_directory
  constructor
  case configuration =>
    exact toOption_node?_put_database hdir (goal_configFile_ne hreader hhome hc hq hvacant)
  case key =>
    intro c' hc' _
    obtain rfl : c = c' := Except.ok.inj (hc.symm.trans hc')
    exact toOption_node?_put_database hdir (goal_keyFile_ne hkey hvacant)
  case stored =>
    intro r t _ ht
    have hne : r ≠ q := by
      rintro rfl
      exact hvacant.not_database t ht
    rwa [find?_put_of_ne hne]
  case made =>
    intro r _ hr
    by_cases hne : r = q
    · subst hne
      exact ⟨hvacant, find?_put_self (ne_nil_of_find? hdir)⟩
    · exact absurd (find?_put_of_ne hne) hr

/-- How the search for a database ends. -/
inductive Connected (path : String) (host : Host) : Except Failure (Option Place) × Host → Prop
  | broken : Connected path host (.error .nullInPath, host)
  | refused (p : DatabaseProblem) :
    Connected path host (.error (.agent (p.toAgentError .openDatabase (some path))), host)
  | found (place : Option Place) : Connected path host (.ok place, host)
  | made : Vacant host.files (host.files.goal (Path.ofText path)) →
    Connected path host (.ok (some (host.files.goal (Path.ofText path))),
      { host with files := host.files.put (host.files.goal (Path.ofText path)) (.database {}) })

lemma connected (path : String) (host : Host) : Connected path host (exec (connect path) host) := by
  rw [connect]
  by_cases hmemory : path = "" ∨ path = memoryPath
  · rw [if_pos hmemory]
    exact .found none
  · cases (Path.ofText path).hasNull with
    | true =>
      rw [if_neg hmemory, if_pos rfl]
      exact .broken
    | false =>
      simp only [if_neg hmemory, Bool.false_eq_true, if_false, exec_bind, exec_get]
      cases hplace : host.files.place (Path.ofText path) with
      | error problem => exact .refused _
      | ok q =>
        obtain rfl := eq_goal hplace
        simp only
        have hmade := @Connected.made path host
        generalize hfound : host.files.find? (host.files.goal (Path.ofText path)) = found
        rw [Vacant, hfound] at hmade
        generalize host.files.find? (host.files.goal (Path.ofText path)).dropLast = parent
        rcases found with _ | (_ | (_ | ⟨_, _ | _⟩) | t)
        case none =>
          rcases parent with _ | (_ | _ | _)
          case some.directory => exact hmade (.inl rfl)
          all_goals exact .refused _
        case some.directory => exact .refused _
        case some.plain.cons.cons => exact .refused _
        case some.database => exact .found _
        all_goals
          rcases parent with _ | (_ | _ | _)
          case some.directory => exact hmade (.inr ⟨_, rfl, by simp⟩)
          all_goals exact .refused _

/-! ## The store -/

lemma isExplained_of_unconfigured {e : Failure} (hc : configured reader f home = .error e) :
    isExplained e = true ∨ Breaks reader f home e := by
  rw [configured] at hc
  split at hc
  · cases hread : f.read (configFile home) with
    | error e' =>
      rw [hread] at hc
      obtain rfl := Except.error.inj hc
      exact (isExplained_of_unread hread).imp_right .inl
    | ok bytes =>
      rw [hread] at hc
      have hsettled : settled (Config.ofBytes reader bytes) = .error e := hc
      rcases hload : Config.ofBytes reader bytes with (_ | e') | c <;> rw [hload] at hsettled
      · cases hsettled
      · obtain rfl := Except.error.inj hsettled
        exact .inr (.inr ⟨bytes, hread, hload⟩)
      · cases hsettled
  · cases hc

lemma isExplained_of_keyless {p : Path} {e : Failure} (hkey : keyIn f p = .error e) :
    isExplained e = true ∨ e = .nullInPath := by
  rw [keyIn] at hkey
  cases hread : f.read p with
  | error e' =>
    rw [hread] at hkey
    obtain rfl := Except.error.inj hkey
    exact isExplained_of_unread hread
  | ok b =>
    rw [hread] at hkey
    simp only [bind, Except.bind] at hkey
    split at hkey
    · cases hkey
    · exact .inl (Except.error.inj hkey ▸ rfl)

/-- With the key at hand nothing but the database is left to be opened. -/
lemma exec_openStore_of_key {key : Bytes} (hc : configured reader host.files home = .ok c)
    (hkey : keyIn host.files (home / c.keyFile) = .ok key) :
    ∃ host₁, host₁.files = host.files ∧
      exec (openStore home false reader) host = exec (openDatabase (home / c.dbFile).text key) host₁ := by
  obtain ⟨host₁, hload, hfiles⟩ := exec_loadConfig reader home host
  rw [hc] at hload
  have htake : exec (takeKey false (home / c.keyFile)) host₁ = (.ok key, host₁) := by
    rw [exec_takeKey_of_present (.inl rfl), hfiles, hkey]
  have hmake : exec (HostM.change fun f => f.makeDirectory home) host₁ = (.ok (), host₁) := by
    rw [exec_change, hfiles, makeDirectory_of_directory (directory_of_key hc hkey), ← hfiles]
  refine ⟨host₁, hfiles, ?_⟩
  rw [openStore_eq, exec_bind_ok hload, exec_bind_ok htake, exec_bind_ok hmake]

/-- Whether or not the store can be opened, it is only looked for. If it can, its home is there. -/
theorem exec_openStore_looked (reader : Yaml.Reader) (hhome : home.IsRooted) (host : Host) :
    ∃ outcome host', exec (openStore home false reader) host = (outcome, host') ∧
      (reader.NeedsRoom → Looked reader home host.files host'.files) ∧
      FailsWith (fun e => isExplained e = true ∨ Breaks reader host.files home e) outcome ∧
      ∀ m, outcome = .ok m → host.files.isPresent home = true ∧ Site.Opened ⟨m, host'⟩ := by
  cases hc : configured reader host.files home with
  | error e =>
    obtain ⟨host', hexec, hfiles⟩ := exec_openStore_of_unreadable false hc
    exact ⟨_, host', hexec, fun _ => hfiles ▸ Looked.refl reader home _,
      FailsWith.error (isExplained_of_unconfigured hc), nofun⟩
  | ok c =>
    cases hkey : keyIn host.files (home / c.keyFile) with
    | error e =>
      obtain ⟨host', hexec, hfiles⟩ := exec_openStore_of_keyless hc (.inl rfl) hkey
      exact ⟨_, host', hexec, fun _ => hfiles ▸ Looked.refl reader home _,
        FailsWith.error ((isExplained_of_keyless hkey).imp_right .inl), nofun⟩
    | ok key =>
      obtain ⟨host₁, hfiles, hexec⟩ := exec_openStore_of_key hc hkey
      have hlength := (keyIn_eq_ok.mp hkey).2
      have hconnected := connected (home / c.dbFile).text host₁
      cases hconnect : exec (connect (home / c.dbFile).text) host₁ with
      | mk outcome host₂ =>
        rw [hconnect] at hconnected
        have hopen := exec_openDatabase hlength hconnect
        have hlooked : reader.NeedsRoom → Looked reader home host.files host₂.files := by
          intro hreader
          cases hconnected with
          | broken => exact hfiles ▸ Looked.refl reader home _
          | refused p => exact hfiles ▸ Looked.refl reader home _
          | found place => exact hfiles ▸ Looked.refl reader home _
          | made hvacant =>
            rw [hfiles] at hvacant ⊢
            exact looked_put hreader hhome hc hkey rfl hvacant
        cases hconnected with
        | broken =>
          exact ⟨_, _, hexec.trans hopen, hlooked, FailsWith.error (.inr (.inl rfl)), nofun⟩
        | refused p =>
          exact ⟨_, _, hexec.trans hopen, hlooked, FailsWith.error (.inl rfl), nofun⟩
        | _ =>
          refine ⟨_, _, hexec.trans hopen, hlooked, FailsWith.ok _, fun m hm => ?_⟩
          obtain rfl := Except.ok.inj hm
          exact ⟨isPresent_iff.mpr ⟨_, directory_of_key hc hkey⟩, _, _, host₁, hopen⟩

end Home

end MeshAgent
