import MeshAgent.Proofs.CommandLine.Running
import MeshAgent.Proofs.Yaml.Room

/-!
# Commands only look

A command leaves its home as it was, and its exit code says whether the home could be opened and read.
Errors of the agent and of the system are told apart from other ones by being explained; as long as the
times in the log are dates, a read fails with no other ones, however addresses, keys and secrets are
damaged.
-/
namespace MeshAgent

namespace Tables

variable {t t' : Tables} {storeKey : Bytes} {id : Int} {device network : String}

/-! ## Tables that can be damaged -/

/-- What damage to addresses, keys and secrets cannot touch: what the database itself sees to, and the
times in the log. -/
structure Legible (t : Tables) : Prop extends Lawful t where
  dated : ∀ r ∈ t.log, r.IsDated

lemma legible_empty : Legible {} :=
  ⟨(sound_empty []).lawful, List.forall_mem_nil _⟩

/-- What stores have written is legible. -/
lemma Sound.legible (ht : t.Sound storeKey) : t.Legible := by
  refine ⟨ht.lawful, fun r hr => ?_⟩
  obtain ⟨e, he⟩ := ht.log_readable r hr
  have hread := r.readAs_entryOfRow
  rw [he] at hread
  cases hread with
  | complete _ _ hdated => exact hdated

lemma Legible.damage_interface (ht : t.Legible) {column : String} {d : Damage} {n : Nat}
    (h : t.damage "iface" column id d = .ok (t', n)) : t'.Legible := by
  refine ⟨ht.toLawful.damage_interface h, ?_⟩
  obtain rfl | ⟨row, -, -, rfl⟩ := damage_interface_eq_ok h
  · exact ht.dated
  · exact ht.dated

lemma Legible.damage_peer (ht : t.Legible) {column : String} {d : Damage} {n : Nat}
    (h : t.damage "peer" column id d = .ok (t', n)) : t'.Legible := by
  simp only [damage, Except.ok.injEq, Prod.mk.injEq] at h
  obtain ⟨rfl, -⟩ := h
  exact ⟨⟨ht.ordered, ht.fits, ht.distinct⟩, ht.dated⟩

/-! ## Failures of reads -/

/-- The computation fails with errors of the agent and of the system only. -/
abbrev Explains {α : Type} (x : Except Failure α) : Prop :=
  FailsWith (fun f => CommandLine.isExplained f = true) x

lemma explains_orFail {α : Type} (x : Except AgentError α) : Explains (orFail x) := by
  intro f hf
  obtain ⟨e, -, rfl⟩ := orFail_eq_error.mp hf
  rfl

lemma Legible.explains_entryOfRow (ht : t.Legible) {r : LogRow} (hr : r ∈ t.log) :
    Explains (History.entryOfRow r) := by
  intro f hf
  have hread := r.readAs_entryOfRow
  rw [hf] at hread
  cases hread with
  | unknownOperation _ => rfl
  | unknownState _ _ => rfl
  | undated _ _ hdate _ => exact absurd (ht.dated r hr) hdate

lemma Legible.explains_load (ht : t.Legible) {r : InterfaceRow} (hr : r ∈ t.interfaces) :
    Explains (t.load storeKey r.id) := by
  rw [ht.load_eq hr]
  exact explains_orFail _

lemma Legible.explains_newestOf (ht : t.Legible) (id : Int) : Explains (t.newestOf id) := by
  intro f hf
  obtain ⟨row, hrow, hread⟩ := newestOf_eq_error.mp hf
  exact ht.explains_entryOfRow (mem_of_lastLog? hrow) f hread

lemma Legible.explains_listed (ht : t.Legible) : Explains (t.listed storeKey) := by
  refine FailsWith.mapM fun id hid => ?_
  obtain ⟨r, hr, rfl⟩ := List.mem_map.mp hid
  rw [ht.loadListed_eq hr]
  exact (ht.explains_load hr).bind fun _ => (ht.explains_newestOf _).bind fun _ => FailsWith.ok _

lemma Legible.explains_loadNamed (ht : t.Legible) (device network : String) :
    Explains (t.loadNamed storeKey device network) := by
  rw [loadNamed]
  cases hfind : t.interfaceNamed? device network with
  | none => exact FailsWith.error rfl
  | some r => exact ht.explains_load (List.mem_of_find?_eq_some hfind)

lemma Legible.explains_entryNamed (ht : t.Legible) (device network : String) :
    Explains (t.entryNamed device network) := by
  rw [entryNamed, newestNamed]
  cases hrow : t.lastLogNamed? device network with
  | none => exact FailsWith.error rfl
  | some r =>
    refine ((ht.explains_entryOfRow (mem_of_lastLogNamed? hrow)).map some).bind fun last => ?_
    cases last with
    | none => exact FailsWith.error rfl
    | some e => exact FailsWith.ok e

/-! ## Tables without brackets -/

/-- No stored text that a command shows has a bracket. -/
structure Unbracketed (t : Tables) : Prop where
  network : ∀ r ∈ t.interfaces, '[' ∉ r.netName.toList ∧ '[' ∉ r.netCidr.toList
  device : ∀ r ∈ t.interfaces,
    '[' ∉ r.deviceName.toList ∧ '[' ∉ r.deviceAddr.toList ∧ '[' ∉ r.deviceEndpoint.toList
  peer : ∀ p ∈ t.peers,
    '[' ∉ p.deviceName.toList ∧ '[' ∉ p.deviceAddr.toList ∧ '[' ∉ p.deviceEndpoint.toList
  message : ∀ r ∈ t.log, '[' ∉ r.message.toList

lemma says_of_load {a : Interface} (h : t.load storeKey id = .ok a) :
    ∃ r ∈ t.interfaces, r.id = id ∧ Stored.Says storeKey r (t.peersOf id) a := by
  rw [load] at h
  split at h
  · cases h
  · cases hrow : t.interface? id with
    | none =>
      rw [hrow] at h
      cases h
    | some r =>
      rw [hrow] at h
      cases hread : Stored.interface storeKey r (t.peersOf id) with
      | error e =>
        simp only [hread, orFail] at h
        cases h
      | ok b =>
        simp only [hread, orFail] at h
        obtain rfl := Except.ok.inj h
        have hid := List.find?_some hrow
        exact ⟨r, List.mem_of_find?_eq_some hrow, by simpa using hid,
          Stored.interface_eq_ok.mp hread⟩

lemma forall_mem_of_forall₂ {α β : Type} {R : α → β → Prop} {P : β → Prop} {as : List α}
    {bs : List β} (h : List.Forall₂ R as bs) (hP : ∀ a ∈ as, ∀ b, R a b → P b) : ∀ b ∈ bs, P b := by
  induction h with
  | nil => exact List.forall_mem_nil _
  | cons hab _ ih =>
    exact List.forall_mem_cons.mpr ⟨hP _ List.mem_cons_self _ hab,
      ih fun a ha => hP a (List.mem_cons_of_mem _ ha)⟩

lemma message_of_entryOfRow {r : LogRow} {e : Entry} (h : History.entryOfRow r = .ok e) :
    e.message = r.message := by
  have hread := r.readAs_entryOfRow
  rw [h] at hread
  cases hread with
  | complete _ _ _ => rfl

/-- The names and the address of everything in a list are those of a row. -/
lemma Unbracketed.of_listed (ht : t.Unbracketed) {items : List Store.Listed}
    (h : t.listed storeKey = .ok items) : ∀ item ∈ items,
      '[' ∉ item.interface.network.name.toList ∧ '[' ∉ item.interface.device.name.toList ∧
        '[' ∉ item.interface.device.addr.text.toList := by
  refine forall_mem_of_forall₂ (Except.mapM_eq_ok.mp h) fun id _ item hitem => ?_
  obtain ⟨i, hload, last, -, hlisted⟩ := by simpa only [loadListed, Except.bind_eq_ok] using hitem
  obtain rfl := Except.ok.inj hlisted
  obtain ⟨r, hr, -, hfields⟩ := says_of_load hload
  obtain ⟨hdevice, haddr, -⟩ := ht.device r hr
  rw [hfields.networkName, hfields.deviceName]
  exact ⟨(ht.network r hr).1, hdevice, Address.bracket_not_mem_text hfields.addr haddr⟩

lemma load_of_loadNamed {i : Interface} (h : t.loadNamed storeKey device network = .ok i) :
    ∃ r ∈ t.interfaces, r.deviceName = device ∧ r.netName = network ∧ r.id = i.id ∧
      t.load storeKey r.id = .ok i := by
  rw [loadNamed] at h
  cases hrow : t.interfaceNamed? device network with
  | none =>
    rw [hrow] at h
    cases h
  | some r =>
    rw [hrow] at h
    have hnames := List.find?_some hrow
    simp only [Bool.and_eq_true, decide_eq_true_eq] at hnames
    obtain ⟨s, -, hid, hfields⟩ := says_of_load h
    exact ⟨r, List.mem_of_find?_eq_some hrow, hnames.1, hnames.2, (hfields.id.trans hid).symm, h⟩

/-- What is read of an interface has brackets only where the rows have them. -/
lemma Unbracketed.of_withLast (ht : t.Unbracketed) {i : Interface} {last : Option Entry}
    (h : t.withLast storeKey device network = .ok (i, last)) : View.Unbracketed i last := by
  obtain ⟨hnamed, hlast⟩ := withLast_eq_ok.mp h
  obtain ⟨_, -, -, -, -, hload⟩ := load_of_loadNamed hnamed
  obtain ⟨r, hr, -, hfields⟩ := says_of_load hload
  obtain ⟨hname, hcidr⟩ := ht.network r hr
  obtain ⟨hdevice, haddr, hendpoint⟩ := ht.device r hr
  constructor
  case network => rwa [hfields.networkName]
  case cidr => exact Address.bracket_not_mem_text hfields.cidr hcidr
  case device => rwa [hfields.deviceName]
  case addr => exact Address.bracket_not_mem_text hfields.addr haddr
  case endpoint => rwa [hfields.endpoint]
  case peers =>
    refine forall_mem_of_forall₂ hfields.peers fun p hp d hd => ?_
    obtain ⟨hname, haddr, hendpoint⟩ := ht.peer p (List.mem_of_mem_filter hp)
    rw [hd.name, hd.endpoint]
    exact ⟨hname, Address.bracket_not_mem_text hd.addr haddr, hendpoint⟩
  case message =>
    rintro e rfl
    have hentry := foundOrNone_eq_ok_some.mp hlast
    rw [entryNamed, newestNamed] at hentry
    cases hrow : t.lastLogNamed? device network with
    | none =>
      rw [hrow] at hentry
      cases hentry
    | some row =>
      simp only [hrow] at hentry
      cases hread : History.entryOfRow row with
      | error f =>
        rw [hread] at hentry
        cases hentry
      | ok e' =>
        rw [hread] at hentry
        obtain rfl : e' = e := Except.ok.inj hentry
        rw [message_of_entryOfRow hread]
        exact ht.message row (mem_of_lastLogNamed? hrow)

/-- Nothing is found in the log for the names of an interface that it says nothing about. -/
lemma Legible.entryNamed_of_fresh (ht : t.Legible) {i : Interface}
    (hload : t.loadNamed storeKey device network = .ok i)
    (hfresh : ∀ row ∈ t.log, row.interfaceId ≠ i.id) :
    t.entryNamed device network = .error (.agent (missingLog device network)) := by
  obtain ⟨r, hr, hdevice, hnetwork, hid, -⟩ := load_of_loadNamed hload
  have hnone : t.lastLogNamed? device network = none := by
    rw [lastLogNamed?, List.getLast?_eq_none_iff, List.filter_eq_nil_iff]
    intro row hrow hany
    obtain ⟨s, hs, hnames⟩ := List.any_eq_true.mp hany
    simp only [Bool.and_eq_true, decide_eq_true_eq] at hnames
    obtain ⟨⟨hsid, hsdevice⟩, hsnetwork⟩ := hnames
    by_cases hsr : s.id = r.id
    · exact hfresh row hrow (hsid.symm.trans (hsr.trans hid))
    · have hshared := ht.distinct s hs r hr hsr .networkAndDeviceName
      simp [Identity.shared, hdevice, hnetwork, hsdevice, hsnetwork] at hshared
  rw [entryNamed, newestNamed, hnone]
  rfl

end Tables

namespace CommandLine

variable {s : Setting} {c : Command} {home : Path} {host : Host} {w : Site}

/-- Why a command on a home does not do what it is asked for: the home is not there, it cannot be
opened, or what the command has to read of it is damaged. Errors other than those of the agent and of
the system do not count. -/
inductive Command.Fails (reader : Yaml.Reader) (home : Path) (host : Host) : Command → Prop
  | missing {named : Option String} :
    host.files.isPresent home = false → Fails reader home host (.status named)
  | unopened {c : Command} {f : Failure} :
    opened reader home host = .error f → isExplained f = true → Fails reader home host c
  | unlisted {named : Option String} {w : Site} {f : Failure} : opened reader home host = .ok w →
    (w.exec Store.interfaces).1 = .error f → isExplained f = true →
    Fails reader home host (.status named)
  | unread {device network : String} {named : Option String} {w : Site} {f : Failure} :
    opened reader home host = .ok w → (w.exec (Store.interfaceByDevice device network)).1 = .error f →
    isExplained f = true → Fails reader home host (.show_ device network named)
  | unlogged {device network : String} {named : Option String} {w : Site} {f : Failure} :
    opened reader home host = .ok w → (w.exec (Store.lastLogByDevice device network)).1 = .error f →
    isExplained f = true → f.isNotFound = false → Fails reader home host (.show_ device network named)

/-- A command on a home only looks at it, and its exit code says how that went. -/
structure Command.Faithful (s : Setting) (verbose : Bool) (c : Command) (home : Path)
    (host : Host) : Prop where
  looked :
    Home.Looked s.reader home host.files ((CommandLine.run s (c.words verbose)).run host).2.files
  /-- The exit code is 1 if the command fails, and 0 otherwise, unless the configuration keeps the store
  closed. -/
  fails_iff : (∀ f, opened s.reader home host = .error f → isExplained f = true) →
    (∀ w, opened s.reader home host = .ok w → w.tables.Legible ∧ w.tables.Unbracketed) →
      (((CommandLine.run s (c.words verbose)).run host).1.exitCode = 1 ↔ c.Fails s.reader home host) ∧
        (((CommandLine.run s (c.words verbose)).run host).1.exitCode = 0 ↔
          ¬ c.Fails s.reader home host)
  /-- A configuration that keeps the store closed ends the command with its own failure. -/
  broken : ∀ f, opened s.reader home host = .error f → isExplained f = false →
    Home.Breaks s.reader host.files home f ∧
      ((c.needsHome = true → host.files.isPresent home = true) →
        ((CommandLine.run s (c.words verbose)).run host).1.exitCode = 1 ∧
          ((CommandLine.run s (c.words verbose)).run host).1.exception = some f)
  /-- An interface that can be read is shown also if the log says nothing about it. -/
  fresh : ∀ device network named w i, c = .show_ device network named →
    opened s.reader home host = .ok w → w.tables.Legible → w.tables.Unbracketed →
    (w.exec (Store.interfaceByDevice device network)).1 = .ok i →
    (∀ row ∈ w.tables.log, row.interfaceId ≠ i.id) →
      ((CommandLine.run s (c.words verbose)).run host).1.exitCode = 0

lemma isRooted_of_home {named : Option String} (huser : ∃ text, s.userHome = Path.ofText text)
    (hs : s.home named = .ok home) : home.IsRooted := by
  obtain ⟨text, huser⟩ := huser
  exact Path.isRooted_expandUser (Path.isRooted_ofText _) (huser ▸ Path.isRooted_ofText text) hs

namespace Command

/-- The exit code says whether the command fails. -/
def Tells (s : Setting) (c : Command) (home : Path) (host : Host) : Prop :=
  ((c.run s).run host).1.exitCode = 1 ∧ c.Fails s.reader home host ∨
    ((c.run s).run host).1.exitCode = 0 ∧ ¬ c.Fails s.reader home host

/-- A list of legible tables without brackets is printed to the end. -/
lemma tells_status {named : Option String} (hs : s.home named = .ok home) (hhome : home.IsRooted)
    (hw : opened s.reader home host = .ok w) (ht : w.tables.Legible) (hplain : w.tables.Unbracketed) :
    Tells s (.status named) home host := by
  obtain ⟨now, -, hrun⟩ := @run_of_opened home host w s (.status named) hs hhome hw
  obtain ⟨hpresent, hsteady, hopen⟩ := steady_of_opened hhome hw
  obtain ⟨hlist, -⟩ := Site.exec_reads hsteady hopen
  rw [Tells, hrun, answer]
  cases hlisted : w.tables.listed w.mounted.store.key with
  | error f =>
    exact .inl ⟨exitCode_explained _ _,
      .unlisted hw (hlist.trans hlisted) (ht.explains_listed f hlisted)⟩
  | ok items =>
    have hnamed := hplain.of_listed hlisted
    refine .inr ⟨View.exitCode_interfaces s.columns now hnamed, ?_⟩
    · intro hfails
      cases hfails with
      | missing hmissing => cases hpresent.symm.trans hmissing
      | unopened hf _ => cases hw.symm.trans hf
      | unlisted hw' hf _ =>
        obtain rfl := Except.ok.inj (hw'.symm.trans hw)
        cases hf.symm.trans (hlist.trans hlisted)

/-- An interface in legible tables without brackets is printed to the end if it can be read. -/
lemma tells_show {device network : String} {named : Option String} (hs : s.home named = .ok home)
    (hhome : home.IsRooted) (hw : opened s.reader home host = .ok w) (ht : w.tables.Legible)
    (hplain : w.tables.Unbracketed) : Tells s (.show_ device network named) home host := by
  obtain ⟨now, -, hrun⟩ := @run_of_opened home host w s (.show_ device network named) hs hhome hw
  obtain ⟨-, hsteady, hopen⟩ := steady_of_opened hhome hw
  obtain ⟨hread, hlast⟩ := (Site.exec_reads hsteady hopen).2 device network
  rw [Tells, hrun, answer]
  cases hboth : w.tables.withLast w.mounted.store.key device network with
  | error f =>
    refine .inl ⟨exitCode_explained _ _, ?_⟩
    obtain hload | ⟨-, hentry, hfound⟩ := Tables.withLast_eq_error.mp hboth
    · exact .unread hw (hread.trans hload) (ht.explains_loadNamed _ _ f hload)
    · exact .unlogged hw (hlast.trans hentry) (ht.explains_entryNamed _ _ f hentry) hfound
  | ok both =>
    obtain ⟨i, last⟩ := both
    obtain ⟨hload, hfound⟩ := Tables.withLast_eq_ok.mp hboth
    refine .inr ⟨(hplain.of_withLast hboth).exitCode_eq s.columns, ?_⟩
    intro hfails
    cases hfails with
    | unopened hf _ => cases hw.symm.trans hf
    | unread hw' hf _ =>
      obtain rfl := Except.ok.inj (hw'.symm.trans hw)
      cases hf.symm.trans (hread.trans hload)
    | unlogged hw' hf _ hnone =>
      obtain rfl := Except.ok.inj (hw'.symm.trans hw)
      rw [hlast.symm.trans hf, Tables.foundOrNone, hnone] at hfound
      cases hfound

/-- The exit code is right unless the configuration keeps the store closed or what is stored cannot be
printed. -/
lemma tells (hs : s.home c.home? = .ok home) (hhome : home.IsRooted)
    (hopens : ∀ f, opened s.reader home host = .error f → isExplained f = true)
    (htables : ∀ w, opened s.reader home host = .ok w → w.tables.Legible ∧ w.tables.Unbracketed) :
    Tells s c home host := by
  cases hopened : opened s.reader home host with
  | error f =>
    exact .inl ⟨exitCode_of_unopened hs hopened, .unopened hopened (hopens f hopened)⟩
  | ok w =>
    obtain ⟨ht, hplain⟩ := htables w hopened
    cases c with
    | status named => exact tells_status hs hhome hopened ht hplain
    | show_ device network named => exact tells_show hs hhome hopened ht hplain

/-- Commands on a home, whatever is in it, only look at it, and their exit codes are right as long as the
configuration does not keep the store closed. -/
theorem faithful_run (s : Setting) (verbose : Bool) {c : Command} (hreader : s.reader.NeedsRoom)
    (hc : c.IsPlain) (huser : ∃ text, s.userHome = Path.ofText text) (hs : s.home c.home? = .ok home)
    (host : Host) : Faithful s verbose c home host := by
  have hhome := isRooted_of_home huser hs
  obtain ⟨hcode, hexception, hhost⟩ := run_words s verbose hc host
  constructor
  case looked =>
    rw [hhost]
    exact looked_run hreader hs hhome host
  case fails_iff =>
    intro hopens htables
    rw [hcode]
    obtain ⟨hone, hfails⟩ | ⟨hzero, hfails⟩ := tells hs hhome hopens htables
    · exact ⟨iff_of_true hone hfails, by rw [hone]; exact iff_of_false nofun (not_not_intro hfails)⟩
    · exact ⟨by rw [hzero]; exact iff_of_false nofun hfails, iff_of_true hzero hfails⟩
  case broken =>
    intro f hf hunexplained
    have hbreaks := (explained_of_unopened hhome hf).resolve_left (by simp [hunexplained])
    refine ⟨hbreaks, fun hpresent => ?_⟩
    rw [hcode, hexception, run_of_unopened hs hf hpresent, explained, hunexplained]
    exact ⟨rfl, rfl⟩
  case fresh =>
    rintro device network named w i rfl hw ht hplain hi hfresh
    obtain ⟨-, hsteady, hopen⟩ := steady_of_opened hhome hw
    have hload := (Site.exec_reads hsteady hopen).2 device network |>.1.symm.trans hi
    have hboth : w.tables.withLast w.mounted.store.key device network = .ok (i, none) :=
      Tables.withLast_eq_ok.mpr ⟨hload, by rw [ht.entryNamed_of_fresh hload hfresh]; rfl⟩
    obtain ⟨now, -, hrun⟩ := run_of_opened hs hhome hw
    rw [hcode, hrun, answer, hboth]
    exact (hplain.of_withLast hboth).exitCode_eq s.columns

end Command

/-! ## A home with a damaged row -/

/-- The program on a host with the home `agent`. -/
def agentSetting : Setting := { programName := "meshgarden", userHome := Path.ofText "/root" }

/-- A host whose agent home has a store key of zeros and a database with the given tables. -/
def agentHost (t : Tables) : Host :=
  { entropy := ⟨fun _ _ => 0, 0⟩
    files :=
      { nodes := [(["agent"], .directory),
          (["agent", "store.key"], .plain (List.replicate SecretBox.keySize 0)),
          (["agent", "meshgarden.db"], .database t)] } }

/-- The store of the home can be opened whatever is in the tables. -/
lemma opened_agentHost (reader : Yaml.Reader) (t : Tables) :
    ∃ w, opened reader (Path.ofText "agent") (agentHost t) = .ok w ∧ w.tables = t ∧
      w.mounted.store.key = List.replicate SecretBox.keySize 0 := by
  let w : Site :=
    ⟨{ store := ⟨"agent/meshgarden.db", List.replicate SecretBox.keySize 0⟩
       place := some ["agent", "meshgarden.db"] }, agentHost t⟩
  have hpath : (Path.ofText "agent" / ({} : Config).dbFile).text = "agent/meshgarden.db" := by
    decide +kernel
  have hdata : Path.ofText "agent/meshgarden.db" = ⟨"", ["agent", "meshgarden.db"]⟩ := by
    decide +kernel
  have hplace : (agentHost t).files.place (Path.ofText "agent/meshgarden.db") =
      .ok ["agent", "meshgarden.db"] := by
    rw [hdata]
    rfl
  have hfiled : Home.Filed "agent/meshgarden.db" := ⟨by decide, by decide +kernel⟩
  have hsteady : w.Steady := ⟨rfl, rfl, List.forall_mem_nil _, hplace, ⟨t, rfl⟩, hfiled⟩
  have hbelongs : Belongs reader w (Path.ofText "agent") {} := ⟨rfl, rfl, hpath, rfl⟩
  obtain ⟨w', hopened, htables, hstore⟩ := hbelongs.opened hsteady
  exact ⟨w', hopened, htables, congrArg Store.key hstore⟩

/-- Tables with one network, of which the CIDR is damaged. -/
def damagedOffice : Tables :=
  { interfaces := [{
      apiUrl := "", netId := "", netName := "office", netCidr := "10.0.0.0/33", deviceId := ""
      deviceName := "laptop", deviceEndpoint := "", deviceAddr := "10.0.0.1/24", publicKey := ""
      listenPort := none, key := [], deviceToken := [], id := 1, createdAt := none
      updatedAt := none }]
    lastInterfaceId := 1 }

lemma legible_damagedOffice : damagedOffice.Legible where
  ordered := List.pairwise_singleton _ _
  fits := by simp [damagedOffice, fitsColumn, maxInteger]
  distinct := by simp [damagedOffice]
  dated := List.forall_mem_nil _

lemma unbracketed_damagedOffice : damagedOffice.Unbracketed where
  network := by simp [damagedOffice]
  device := by simp [damagedOffice]
  peer := List.forall_mem_nil _
  message := List.forall_mem_nil _

/-- The database is no file beside itself. -/
lemma not_beside_damagedOffice (reader : Yaml.Reader) :
    ¬ Home.Beside reader (agentHost damagedOffice).files (Path.ofText "agent")
      ["agent", "meshgarden.db"] := by
  rintro ⟨c, hc, hbeside⟩
  have hconfig : Home.configured reader (agentHost damagedOffice).files (Path.ofText "agent") =
      .ok {} := rfl
  obtain rfl := Except.ok.inj (hconfig.symm.trans hc)
  exact absurd hbeside (by decide +kernel)

/-- Showing an interface whose network is damaged fails, and leaves the damaged row as it is. -/
theorem Command.faithful_run_of_damaged_cidr :
    let c : Command := .show_ "laptop" "office" (some "agent")
    let ended := (CommandLine.run agentSetting (c.words false)).run (agentHost damagedOffice)
    (agentSetting.reader.NeedsRoom ∧ c.IsPlain ∧ (∃ text, agentSetting.userHome = Path.ofText text) ∧
      agentSetting.home c.home? = .ok (Path.ofText "agent")) ∧
      ended.1.exitCode = 1 ∧
      ended.2.files.find? ["agent", "meshgarden.db"] = some (.database damagedOffice) := by
  intro c ended
  have hreader : agentSetting.reader.NeedsRoom := fun _ hcs _ => Yaml.load_ne_record hcs
  have hplain : c.IsPlain := ⟨by decide, by decide⟩
  have hs : agentSetting.home c.home? = .ok (Path.ofText "agent") := by decide +kernel
  have hfaithful := Command.faithful_run agentSetting false hreader hplain ⟨"/root", rfl⟩ hs
    (agentHost damagedOffice)
  refine ⟨⟨hreader, hplain, ⟨"/root", rfl⟩, hs⟩, ?_,
    hfaithful.looked.stored _ _ (not_beside_damagedOffice _) rfl⟩
  obtain ⟨w, hopened, htables, hkey⟩ := opened_agentHost agentSetting.reader damagedOffice
  have hopens : ∀ f, opened agentSetting.reader (Path.ofText "agent") (agentHost damagedOffice) =
      .error f → isExplained f = true := fun f hf => by cases hopened.symm.trans hf
  have hgood : ∀ w', opened agentSetting.reader (Path.ofText "agent") (agentHost damagedOffice) =
      .ok w' → w'.tables.Legible ∧ w'.tables.Unbracketed := by
    intro w' hw'
    obtain rfl := Except.ok.inj (hw'.symm.trans hopened)
    rw [htables]
    exact ⟨legible_damagedOffice, unbracketed_damagedOffice⟩
  have hunread : ∃ f, damagedOffice.loadNamed w.mounted.store.key "laptop" "office" = .error f := by
    have hnone : (damagedOffice.loadNamed (List.replicate SecretBox.keySize 0) "laptop"
        "office").toOption = none := by decide +kernel
    rw [hkey]
    cases hload : damagedOffice.loadNamed (List.replicate SecretBox.keySize 0) "laptop" "office" with
    | error f => exact ⟨f, rfl⟩
    | ok i =>
      rw [hload] at hnone
      cases hnone
  obtain ⟨f, hf⟩ := hunread
  obtain ⟨-, hsteady, hopen⟩ := steady_of_opened (isRooted_of_home ⟨"/root", rfl⟩ hs) hopened
  have hread := ((Site.exec_reads hsteady hopen).2 "laptop" "office").1
  rw [htables] at hread
  have hexplained := legible_damagedOffice.explains_loadNamed _ _ f hf
  exact (hfaithful.fails_iff hopens hgood).1.mpr (.unread hopened (hread.trans hf) hexplained)

/-- A truth value in the configuration that is none ends the list of networks with a failure that is
neither of the agent nor of the system. -/
theorem Command.status_of_broken_configuration :
    let c : Command := .status (some "agent")
    let host : Host := { agentHost {} with
      files :=
        { nodes := (["agent", "config"], .directory) ::
            (["agent", "config", "config.yaml"], .plain Home.brokenText) ::
              (agentHost {}).files.nodes } }
    let ended := (CommandLine.run agentSetting (c.words false)).run host
    ended.1.exitCode = 1 ∧ ended.1.exception = some (.unknownName "maybe") ∧
      ¬ c.Fails agentSetting.reader (Path.ofText "agent") host := by
  intro c host ended
  have hs : agentSetting.home c.home? = .ok (Path.ofText "agent") := by decide +kernel
  have hpresent : host.files.isPresent (Path.ofText "agent") = true := by decide +kernel
  have hconfig : host.files.read (Home.configFile (Path.ofText "agent")) = .ok Home.brokenText := rfl
  have hbroken : Home.configured agentSetting.reader host.files (Path.ofText "agent") =
      .error (.unknownName "maybe") := by
    rw [Home.configured_of_read hconfig]
    exact congrArg Home.settled Home.ofBytes_brokenText
  have hclosed : opened agentSetting.reader (Path.ofText "agent") host =
      .error (.unknownName "maybe") := by
    obtain ⟨host', hopen, -⟩ := Home.exec_openStore_of_unreadable false hbroken
    rw [opened, hopen]
  obtain ⟨hcode, hexception, -⟩ := run_words agentSetting false (c := c) trivial host
  have hrun := run_of_unopened hs hclosed fun _ => hpresent
  refine ⟨hcode.trans (exitCode_of_unopened hs hclosed), ?_, fun hfails => ?_⟩
  · exact hexception.trans (by rw [hrun]; rfl)
  · have hfails : Fails agentSetting.reader (Path.ofText "agent") host (.status (some "agent")) :=
      hfails
    cases hfails with
    | missing hmissing => cases hpresent.symm.trans hmissing
    | unopened hf hexplained =>
      obtain rfl := Except.error.inj (hclosed.symm.trans hf)
      cases hexplained
    | unlisted hw _ _ => cases hclosed.symm.trans hw

end CommandLine

end MeshAgent
