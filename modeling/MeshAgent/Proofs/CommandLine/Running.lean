import MeshAgent.Proofs.CommandLine.Printed
import MeshAgent.Proofs.Home.DamagedLog
import MeshAgent.Proofs.Home.Looking

/-!
# Running commands

What a command prints is a function of the durable tables of the store that it has opened. The two
reads of the command that shows one interface have transactions of their own; since a read leaves the
tables as they were, they look at the same ones.
-/
namespace MeshAgent

namespace CommandLine

/-! ## Words -/

namespace Arguments

variable {specs : List OptionSpec} {s : OptionSpec} {value arg : String} {rest : List String}

/-- The option is known by its full name, and the name gives it no value. -/
structure Knows (specs : List OptionSpec) (s : OptionSpec) : Prop where
  found : specs.find? (fun o => o.name = s.name) = some s
  dashed : ∃ c r, s.name.toList = '-' :: c :: r
  named : s.name ≠ "--"
  bare : '=' ∉ s.name.toList

/-- Such a name is looked up as it is. -/
lemma Knows.exists_spelling (h : Knows specs s) :
    ∃ c r, s.name.toList = '-' :: c :: r ∧
      Text.cutFirst '=' ('-' :: c :: r) = ('-' :: c :: r, none) ∧
      String.ofList ('-' :: c :: r) = s.name := by
  obtain ⟨c, r, hlist⟩ := h.dashed
  exact ⟨c, r, hlist, Text.cutFirst_of_not_mem (hlist ▸ h.bare), by rw [← hlist, String.ofList_toList]⟩

lemma read_valued (mixed : Bool) (h : Knows specs s) (hvalue : s.takesValue = true) :
    read specs mixed (s.name :: value :: rest) =
      (read specs mixed rest).map (withOption s.name value) := by
  obtain ⟨c, r, hlist, hcut, hname⟩ := h.exists_spelling
  rw [read, if_neg h.named]
  simp only [hlist, hcut, hname, h.found, hvalue, if_true]
  cases read specs mixed rest <;> rfl

lemma read_flag (mixed : Bool) (h : Knows specs s) (hvalue : s.takesValue = false) :
    read specs mixed (s.name :: rest) = (read specs mixed rest).map (withOption s.name "") := by
  obtain ⟨c, r, hlist, hcut, hname⟩ := h.exists_spelling
  rw [read, if_neg h.named]
  simp only [hlist, hcut, hname, h.found, hvalue, Bool.false_eq_true, if_false]
  cases read specs mixed rest <;> rfl

/-- A word that does not begin like an option is none. -/
lemma read_word (mixed : Bool) (h : arg.toList.head? ≠ some '-') :
    read specs mixed (arg :: rest) =
      if mixed then (read specs mixed rest).map fun a => { a with others := arg :: a.others }
      else .ok { others := arg :: rest } := by
  have hdashes : arg ≠ "--" := by
    rintro rfl
    exact h rfl
  rw [read, if_neg hdashes]
  split
  · rename_i hlist
    rw [hlist] at h
    exact absurd rfl h
  · cases mixed with
    | false => rfl
    | true => cases read specs true rest <;> rfl

end Arguments

/-- The words that name a home. -/
def homeWords : Option String → List String
  | none => []
  | some home => ["--home", home]

lemma read_homeWords (home : Option String) :
    Arguments.read Topic.status.options true (homeWords home) =
      .ok { options := (home.map fun h => ("--home", h)).toList } := by
  have hknows : Arguments.Knows Topic.status.options { name := "--home", takesValue := true } :=
    ⟨by decide +kernel, ⟨'-', _, rfl⟩, by decide, by decide⟩
  cases home with
  | none => rfl
  | some h => exact Arguments.read_valued true hknows rfl

namespace Command

/-- The words that call for a command. -/
def words (verbose : Bool) (c : Command) : List String :=
  (if verbose then ["--verbose"] else []) ++
    match c with
    | status home => "status" :: homeWords home
    | show_ device network home => "show" :: device :: network :: homeWords home

/-- No name in the command begins like an option. -/
def IsPlain : Command → Prop
  | status _ => True
  | show_ device network _ => device.toList.head? ≠ some '-' ∧ network.toList.head? ≠ some '-'

end Command

lemma read_program (verbose : Bool) (word : String) (h : word.toList.head? ≠ some '-')
    (rest : List String) :
    Arguments.read Topic.program.options false
        ((if verbose then ["--verbose"] else []) ++ word :: rest) =
      .ok { options := if verbose then [("--verbose", "")] else [], others := word :: rest } := by
  have hknows : Arguments.Knows Topic.program.options { name := "--verbose", letter := some 'v' } :=
    ⟨by decide +kernel, ⟨'-', _, rfl⟩, by decide, by decide⟩
  cases verbose with
  | false => exact Arguments.read_word false h
  | true =>
    exact (Arguments.read_flag false hknows rfl).trans
      (congrArg (Except.map _) (Arguments.read_word false h))

lemma gives_verbose (verbose : Bool) (others : List String) :
    ({ options := if verbose then [("--verbose", "")] else [], others } : Arguments).gives "--verbose" =
      verbose := by
  cases verbose
  · rfl
  · exact (List.any_cons ..).trans (by simp)

lemma ofOptions?_verbose (verbose : Bool) (others : List String) :
    Request.ofOptions?
      { options := if verbose then [("--verbose", "")] else [], others } = none := by
  cases verbose
  · rfl
  · simp [Request.ofOptions?]

lemma value?_home (home : Option String) (others : List String) :
    ({ options := (home.map fun h => ("--home", h)).toList, others } : Arguments).value? "--home" =
        home ∧
      ({ options := (home.map fun h => ("--home", h)).toList, others } : Arguments).gives "--help" =
        false := by
  cases home with
  | none => exact ⟨rfl, rfl⟩
  | some h => simp [Arguments.value?, Arguments.gives]

/-- A command is understood if its names do not begin like options. -/
lemma ofArguments_words (verbose : Bool) {c : Command} (hc : c.IsPlain) :
    Request.ofArguments (c.words verbose) = .command verbose c := by
  cases c with
  | status home =>
    have hread := read_program verbose "status" (by decide) (homeWords home)
    have hne : (Command.words verbose (.status home)).isEmpty = false := by cases verbose <;> rfl
    obtain ⟨hvalue, hhelp⟩ := value?_home home []
    change Arguments.read _ _ (Command.words verbose (.status home)) = _ at hread
    rw [Request.ofArguments, hread]
    simp only [hne, Bool.false_eq_true, if_false, ofOptions?_verbose, gives_verbose,
      Request.ofCommand, read_homeWords, hhelp, Request.ofStatus, hvalue]
  | show_ device network home =>
    have hread := read_program verbose "show" (by decide)
      (device :: network :: homeWords home)
    have hne : (Command.words verbose (.show_ device network home)).isEmpty = false := by
      cases verbose <;> rfl
    obtain ⟨hvalue, hhelp⟩ := value?_home home [device, network]
    have hwords : Arguments.read Topic.show_.options true (device :: network :: homeWords home) =
        .ok { options := (home.map fun h => ("--home", h)).toList, others := [device, network] } := by
      rw [Arguments.read_word true hc.1, Arguments.read_word true hc.2]
      change Except.map _ (Except.map _
        (Arguments.read Topic.status.options true (homeWords home))) = _
      rw [read_homeWords]
      rfl
    change Arguments.read _ _ (Command.words verbose (.show_ device network home)) = _ at hread
    rw [Request.ofArguments, hread]
    simp only [hne, Bool.false_eq_true, if_false, ofOptions?_verbose, gives_verbose,
      Request.ofCommand, hwords, hhelp, Request.ofShow, hvalue]

/-- What a command said aloud leaves is what the command itself leaves; only more may be printed. -/
lemma run_words (s : Setting) (verbose : Bool) {c : Command} (hc : c.IsPlain) (host : Host) :
    ((run s (c.words verbose)).run host).1.exitCode = ((c.run s).run host).1.exitCode ∧
      ((run s (c.words verbose)).run host).1.exception = ((c.run s).run host).1.exception ∧
      ((run s (c.words verbose)).run host).2 = ((c.run s).run host).2 := by
  rw [run, ofArguments_words verbose hc]
  dsimp only
  generalize c.run s = command
  cases verbose <;> exact ⟨rfl, rfl, rfl⟩

end CommandLine

/-! ## Reads -/

/-- Something that was asked for is not there. -/
def Failure.isNotFound : Failure → Bool
  | agent e => e.kind = .notFound
  | _ => false

namespace Tables

variable {t : Tables} {key : Bytes} {device network : String} {f : Failure}

/-- What became of a search that need not find anything. -/
def foundOrNone {α : Type} : Except Failure α → Except Failure (Option α)
  | .ok a => .ok (some a)
  | .error f => if f.isNotFound then .ok none else .error f

lemma foundOrNone_eq_ok_some {α : Type} {x : Except Failure α} {a : α} :
    foundOrNone x = .ok (some a) ↔ x = .ok a := by
  cases x with
  | ok b => simp [foundOrNone]
  | error f => cases hf : f.isNotFound <;> simp [foundOrNone, hf]

lemma foundOrNone_eq_error {α : Type} {x : Except Failure α} :
    foundOrNone x = .error f ↔ x = .error f ∧ f.isNotFound = false := by
  cases x with
  | ok b => simp [foundOrNone]
  | error g =>
    rw [foundOrNone]
    cases hg : g.isNotFound with
    | true => simpa using fun h : g = f => h ▸ hg
    | false => simpa using fun h : g = f => h ▸ hg

/-- The interface with the given names and its newest entry; it need not have any. -/
def withLast (t : Tables) (key : Bytes) (device network : String) :
    Except Failure (Interface × Option Entry) := do
  let i ← t.loadNamed key device network
  let last ← foundOrNone (t.entryNamed device network)
  return (i, last)

lemma withLast_eq_ok {i : Interface} {last : Option Entry} :
    t.withLast key device network = .ok (i, last) ↔
      t.loadNamed key device network = .ok i ∧
        foundOrNone (t.entryNamed device network) = .ok last := by
  rw [withLast]
  cases t.loadNamed key device network <;> cases foundOrNone (t.entryNamed device network) <;>
    simp [bind, Except.bind, pure, Except.pure]

lemma withLast_eq_error :
    t.withLast key device network = .error f ↔ t.loadNamed key device network = .error f ∨
      (∃ i, t.loadNamed key device network = .ok i) ∧
        t.entryNamed device network = .error f ∧ f.isNotFound = false := by
  rw [withLast, ← foundOrNone_eq_error]
  cases t.loadNamed key device network <;> cases foundOrNone (t.entryNamed device network) <;>
    simp [bind, Except.bind, pure, Except.pure]

end Tables

namespace Transaction

variable {α β : Type} {s : StoreState}

lemma Settled.trans {s₁ s₂ : StoreState} {e₁ e₂ : Entropy} {t : Tables}
    (h₁ : Settled s s.connection.durable e₁ s₁) (h₂ : Settled s₁ t e₂ s₂) : Settled s t e₂ s₂ :=
  ⟨h₂.store.trans h₁.store, h₂.now.trans h₁.now, h₂.closed, h₂.durable, h₂.entropy, h₂.idle⟩

lemma performs_interfaces (hs : s.Idle) (hc : s.connection.closed = false) :
    Performs s Store.interfaces (Change.look fun t => t.listed s.store.key) :=
  performs_reading hs hc finds_interfaces

lemma performs_interfaceByDevice (hs : s.Idle) (hc : s.connection.closed = false)
    (device network : String) :
    Performs s (Store.interfaceByDevice device network)
      (Change.look fun t => t.loadNamed s.store.key device network) :=
  performs_reading hs hc (finds_interfaceNamed device network)

/-- The two reads of an interface and of its newest entry look at the same tables. -/
lemma performs_interfaceAndLast (hs : s.Idle) (hc : s.connection.closed = false)
    (device network : String) :
    Performs s (CommandLine.interfaceAndLast device network)
      (Change.look fun t => t.withLast s.store.key device network) := by
  obtain ⟨e₁, s₁, hload, hset₁⟩ := performs_interfaceByDevice hs hc device network
  rw [Change.after_look] at hset₁
  rw [Change.outcome_look] at hload
  rw [CommandLine.interfaceAndLast, Performs, Change.outcome_look, Change.after_look,
    Tables.withLast]
  cases hloaded : s.connection.durable.loadNamed s.store.key device network with
  | error f =>
    rw [hloaded] at hload
    exact ⟨e₁, s₁, exec_bind_error hload, hset₁⟩
  | ok i =>
    rw [hloaded] at hload
    obtain ⟨e₂, s₂, hlast, hset₂⟩ := performs_lastLogByDevice hset₁.idle hset₁.closed device network
    rw [Change.outcome_look, hset₁.durable] at hlast
    rw [Change.after_look, hset₁.durable] at hset₂
    refine ⟨e₂, s₂, ?_, hset₁.trans hset₂⟩
    rw [exec_bind_ok hload, exec_bind, exec_tryCatch, map_eq_pure_bind, exec_map, hlast]
    cases s.connection.durable.entryNamed device network with
    | ok e => rfl
    | error f =>
      cases f with
      | agent e =>
        by_cases hkind : e.kind = .notFound
        · simp only [Except.map, Tables.foundOrNone, Failure.isNotFound, hkind, decide_true, if_true]
          rfl
        · simp only [Except.map, Tables.foundOrNone, Failure.isNotFound, hkind, decide_false,
            Bool.false_eq_true, if_false]
          rfl
      | _ => rfl

end Transaction

namespace Site

variable {α : Type} {w : Site}

lemma files_leave_of_unchanged {s : StoreState} (hs : s.connection.durable = w.tables) :
    (w.leave s).host.files = w.host.files := by
  simp only [leave, hs, if_true]
  cases w.mounted.place <;> rfl

/-- A read answers from the durable tables and leaves the files as they were. -/
lemma exec_of_performs {x : StoreM α} {f : Tables → Except Failure α}
    (hx : Transaction.Performs w.state x (Change.look f)) :
    (w.exec x).1 = f w.tables ∧ (w.exec x).2.host.files = w.host.files := by
  obtain ⟨e', s', hs', hset⟩ := hx
  rw [Change.outcome_look] at hs'
  rw [Change.after_look] at hset
  rw [exec_eq, hs']
  exact ⟨rfl, files_leave_of_unchanged hset.durable⟩

/-- What the reads of commands answer. -/
lemma exec_reads (hw : w.Steady) (hopen : w.IsOpen) :
    (w.exec Store.interfaces).1 = w.tables.listed w.mounted.store.key ∧
      ∀ device network,
        (w.exec (Store.interfaceByDevice device network)).1 =
            w.tables.loadNamed w.mounted.store.key device network ∧
          (w.exec (Store.lastLogByDevice device network)).1 = w.tables.entryNamed device network :=
  ⟨(exec_of_performs (Transaction.performs_interfaces hw.idle hopen)).1, fun device network =>
    ⟨(exec_of_performs (Transaction.performs_interfaceByDevice hw.idle hopen device network)).1,
      (exec_of_performs (Transaction.performs_lastLogByDevice hw.idle hopen device network)).1⟩⟩

lemma files_close (w : Site) : w.close.host.files = w.host.files := files_leave_of_unchanged rfl

end Site

namespace CommandLine

open Transaction

variable {α : Type} {reader : Yaml.Reader} {home : Path} {host : Host} {w : Site}

/-- The store of a home as a command opens it, which makes no key. -/
def opened (reader : Yaml.Reader) (home : Path) (host : Host) : Except Failure Site :=
  match exec (Home.openStore home false reader) host with
  | (.ok m, host') => .ok ⟨m, host'⟩
  | (.error f, _) => .error f

lemma exec_of_opened (hw : opened reader home host = .ok w) :
    exec (Home.openStore home false reader) host = (.ok w.mounted, w.host) := by
  rw [opened] at hw
  split at hw
  · rename_i hexec
    obtain rfl := Except.ok.inj hw
    exact hexec
  · cases hw

lemma exec_of_unopened {f : Failure} (hf : opened reader home host = .error f) :
    ∃ host', exec (Home.openStore home false reader) host = (.error f, host') := by
  rw [opened] at hf
  split at hf
  · cases hf
  · rename_i host' hexec
    obtain rfl := Except.error.inj hf
    exact ⟨host', hexec⟩

/-- A store that can be opened is in a home that is there. -/
lemma steady_of_opened (hhome : home.IsRooted) (hw : opened reader home host = .ok w) :
    host.files.isPresent home = true ∧ w.Steady ∧ w.IsOpen := by
  obtain ⟨outcome, host', hexec, -, -, hopened⟩ := Home.exec_openStore_looked reader hhome host
  rw [exec_of_opened hw] at hexec
  obtain ⟨rfl, rfl⟩ := Prod.mk.inj hexec
  obtain ⟨hpresent, hsite⟩ := hopened _ rfl
  exact ⟨hpresent, Site.steady_of_opened hsite⟩

/-- A store that cannot be opened is kept closed by an error of the agent or the system, or by its
configuration. -/
lemma explained_of_unopened (hhome : home.IsRooted) {f : Failure}
    (hf : opened reader home host = .error f) :
    isExplained f = true ∨ Home.Breaks reader host.files home f := by
  obtain ⟨outcome, host', hexec, -, hexplained, -⟩ := Home.exec_openStore_looked reader hhome host
  obtain ⟨host₁, hopen⟩ := exec_of_unopened hf
  rw [hopen] at hexec
  exact hexplained f (Prod.mk.inj hexec).1.symm

/-- What is read of a home that can be opened is what its durable tables say. -/
lemma exec_reading {x : StoreM α} {f : Tables → Except Failure α} (hw : opened reader home host = .ok w)
    (hx : Performs w.state x (Change.look f)) :
    ∃ host', exec (reading reader home x) host = (f w.tables, host') ∧ host'.files = w.host.files := by
  obtain ⟨hread, hfiles⟩ := Site.exec_of_performs hx
  refine ⟨(w.exec x).2.close.host, ?_, (Site.files_close _).trans hfiles⟩
  rw [← hread, reading, exec_bind_ok (exec_of_opened hw), exec_bind, exec_modifyGet]
  simp only [exec_bind, exec_modify]
  exact Home.exec_lift _ _

lemma exec_reading_of_unopened {f : Failure} (x : StoreM α) (hf : opened reader home host = .error f) :
    ∃ host', exec (Home.openStore home false reader) host = (.error f, host') ∧
      exec (reading reader home x) host = (.error f, host') := by
  obtain ⟨host', hexec⟩ := exec_of_unopened hf
  exact ⟨host', hexec, exec_bind_error hexec⟩

/-- The store is the one of the home: it has the key from the key file and the database that the
configuration names. -/
structure Belongs (reader : Yaml.Reader) (w : Site) (home : Path) (c : Config) : Prop where
  config : Home.configured reader w.host.files home = .ok c
  key : Home.keyIn w.host.files (home / c.keyFile) = .ok w.mounted.store.key
  path : (home / c.dbFile).text = w.mounted.store.path
  filed : w.mounted.place.isSome = true

/-- Commands find what the store of the home has stored. -/
lemma Belongs.opened {c : Config} (h : Belongs reader w home c) (hw : w.Steady) :
    ∃ w', opened reader home w.host = .ok w' ∧ w'.tables = w.tables ∧ w'.mounted.store = w.mounted.store := by
  obtain ⟨q, hq⟩ := Option.isSome_iff_exists.mp h.filed
  have hplace := hw.place
  rw [hq] at hplace
  obtain ⟨hpath, ⟨t, ht⟩, hnamed⟩ := hplace
  obtain ⟨host₁, hfiles, hexec⟩ := Home.exec_openStore_of_key h.config h.key
  rw [h.path] at hexec
  rw [← hfiles] at hpath ht
  have hopen := Home.exec_openDatabase hw.key (Home.exec_connect_of_database hnamed hpath ht)
  refine ⟨⟨{ store := w.mounted.store, place := some q }, Home.noteOpened w.mounted.store.path host₁⟩,
    by rw [CommandLine.opened, hexec, hopen], ?_, rfl⟩
  rw [Site.tables_of_place hq (hfiles ▸ ht)]
  exact Site.tables_of_place rfl ht

/-! ## Endings -/

lemma exitCode_explained (limit : Nat) (f : Failure) : (explained limit f).exitCode = 1 := by
  rw [explained]
  split
  · exact Outcome.exitCode_ofPrintout_one _
  · rfl

namespace Command

variable {s : Setting} {c : Command}

/-- What the command prints of tables, unless they cannot be read. -/
def answer (limit : Nat) (now : Int) (t : Tables) (key : Bytes) :
    Command → Except Failure View.Printout
  | status _ => (t.listed key).map (View.interfaces limit now)
  | show_ device network _ =>
    (t.withLast key device network).map fun x => View.interface limit x.1 x.2

lemma exec_printout (hhome : home.IsRooted) (hw : opened s.reader home host = .ok w) (c : Command) :
    ∃ now host', exec (c.printout s home) host =
        (c.answer s.columns now w.tables w.mounted.store.key, host') ∧ host'.files = w.host.files := by
  obtain ⟨-, hsteady, hopen⟩ := steady_of_opened hhome hw
  cases c with
  | status _ =>
    obtain ⟨host', hexec, hfiles⟩ := exec_reading hw (performs_interfaces hsteady.idle hopen)
    refine ⟨host'.now, host', ?_, hfiles⟩
    rw [printout, exec_bind, hexec, answer]
    change _ = (Except.map _ (w.tables.listed w.state.store.key), host')
    cases w.tables.listed w.state.store.key <;> rfl
  | show_ device network _ =>
    obtain ⟨host', hexec, hfiles⟩ :=
      exec_reading hw (performs_interfaceAndLast hsteady.idle hopen device network)
    refine ⟨0, host', ?_, hfiles⟩
    rw [printout, exec_bind, hexec, answer]
    change _ = (Except.map _ (w.tables.withLast w.state.store.key device network), host')
    cases w.tables.withLast w.state.store.key device network <;> rfl

lemma exec_printout_of_unopened {f : Failure} (hf : opened s.reader home host = .error f)
    (c : Command) :
    ∃ host', exec (Home.openStore home false s.reader) host = (.error f, host') ∧
      exec (c.printout s home) host = (.error f, host') := by
  cases c with
  | status _ =>
    obtain ⟨host', hopen, hread⟩ := exec_reading_of_unopened Store.interfaces hf
    exact ⟨host', hopen, exec_bind_error hread⟩
  | show_ device network _ =>
    obtain ⟨host', hopen, hread⟩ := exec_reading_of_unopened (interfaceAndLast device network) hf
    exact ⟨host', hopen, exec_bind_error hread⟩

/-- A missing home is told apart if the command asks for it; otherwise a printout that was got is
printed, and a failure is explained. -/
lemma run_eq (hs : s.home c.home? = .ok home) (host : Host) :
    (c.run s).run host =
      if c.needsHome && !host.files.isPresent home then
        (.ofPrintout 1 [View.text s.columns "[bold red]No agent found.[/] Join a network first."], host)
      else
        match exec (c.printout s home) host with
        | (.ok p, host') => (.ofPrintout 0 p, host')
        | (.error f, host') => (explained s.columns f, host') := by
  rw [run, hs]
  simp only [StateT.run_bind, StateT.run_get, pure_bind]
  split
  · rfl
  · have hexec : StateT.run (ExceptT.run (c.printout s home)) host =
        exec (c.printout s home) host := rfl
    rw [StateT.run_bind, hexec]
    rcases exec (c.printout s home) host with ⟨_ | _, host'⟩ <;> rfl

variable {f : Failure}

/-- A command whose store cannot be opened says why, if its home is there. -/
lemma run_of_unopened (hs : s.home c.home? = .ok home) (hf : opened s.reader home host = .error f)
    (hpresent : c.needsHome = true → host.files.isPresent home = true) :
    ((c.run s).run host).1 = explained s.columns f := by
  obtain ⟨host', -, hexec⟩ := exec_printout_of_unopened hf c
  have hthere : (c.needsHome && !host.files.isPresent home) = false := by
    cases hneeds : c.needsHome with
    | false => rfl
    | true => rw [hpresent hneeds]; rfl
  rw [run_eq hs, hthere, if_neg Bool.false_ne_true, hexec]

lemma exitCode_of_unopened (hs : s.home c.home? = .ok home)
    (hf : opened s.reader home host = .error f) : ((c.run s).run host).1.exitCode = 1 := by
  by_cases hpresent : c.needsHome = true → host.files.isPresent home = true
  · rw [run_of_unopened hs hf hpresent]
    exact exitCode_explained _ _
  · obtain ⟨hneeds, hmissing⟩ := Classical.not_imp.mp hpresent
    rw [run_eq hs, hneeds, Bool.eq_false_iff.mpr hmissing]
    exact Outcome.exitCode_ofPrintout_one _

/-- A command whose store can be opened prints what the tables say, or says why they cannot be read. -/
theorem run_of_opened (hs : s.home c.home? = .ok home) (hhome : home.IsRooted)
    (hw : opened s.reader home host = .ok w) :
    ∃ now, ((c.run s).run host).2.files = w.host.files ∧
      ((c.run s).run host).1 =
        match c.answer s.columns now w.tables w.mounted.store.key with
        | .ok p => .ofPrintout 0 p
        | .error f => explained s.columns f := by
  obtain ⟨hpresent, -⟩ := steady_of_opened hhome hw
  obtain ⟨now, host', hexec, hfiles⟩ := exec_printout hhome hw c
  refine ⟨now, ?_⟩
  rw [run_eq hs, hpresent, Bool.not_true, Bool.and_false, if_neg Bool.false_ne_true, hexec]
  cases c.answer s.columns now w.tables w.mounted.store.key <;> exact ⟨hfiles, rfl⟩

/-- Every command only looks at its home. -/
theorem looked_run (hreader : s.reader.NeedsRoom) (hs : s.home c.home? = .ok home)
    (hhome : home.IsRooted) (host : Host) :
    Home.Looked s.reader home host.files ((c.run s).run host).2.files := by
  obtain ⟨outcome, host₁, hlook, hlooked, -⟩ := Home.exec_openStore_looked s.reader hhome host
  cases hopened : opened s.reader home host with
  | ok w =>
    obtain ⟨-, hfiles, -⟩ := run_of_opened hs hhome hopened
    rw [exec_of_opened hopened] at hlook
    obtain ⟨rfl, rfl⟩ := Prod.mk.inj hlook
    rw [hfiles]
    exact hlooked hreader
  | error f =>
    rw [run_eq hs]
    split
    · exact Home.Looked.refl s.reader home _
    · obtain ⟨host', hopen, hexec⟩ := exec_printout_of_unopened hopened c
      rw [hopen] at hlook
      obtain ⟨rfl, rfl⟩ := Prod.mk.inj hlook
      rw [hexec]
      exact hlooked hreader

end Command

end CommandLine

end MeshAgent
