import MeshAgent.Proofs.CommandLine.ReadOnly
import MeshAgent.Proofs.Home.Reachable

/-!
# What commands can display

Names, endpoints and messages stand in what is printed as they are, and the terminal takes brackets in
them for tags. A text that opens styles does no harm, but one that closes a style which it has not
opened itself keeps the list of networks from being printed; in the panel of an interface it may close
what stands before it there. Tags that are more than the name of a style are left aside.
-/
namespace MeshAgent

open Markup

namespace Tables

variable {t : Tables} {key : Bytes} {a : Interface}

/-- A stored interface is found by its names, and its newest entry with it. -/
lemma Sound.withLast_eq (ht : t.Sound key) (hk : key.length = SecretBox.keySize) (ha : t.Holds key a) :
    ∃ last, t.withLast key a.device.name a.network.name = .ok (a, last) ∧ t.IsNewest a.id last := by
  have hfits : fitsColumn a.id = true := by
    obtain ⟨r, hr, hstores⟩ := ha
    rw [← hstores.id]
    exact ht.fits hr
  obtain ⟨last, hlast, hnewest⟩ := ht.newest_eq hfits
  have hnamed : t.newestNamed a.device.name a.network.name = .ok last := by
    rw [newestNamed, ht.lastLogNamed?_eq ha]
    rwa [newest, hfits] at hlast
  refine ⟨last, withLast_eq_ok.mpr ⟨ht.loadNamed_eq hk ha, ?_⟩, hnewest⟩
  rw [entryNamed, hnamed]
  cases last <;> rfl

/-- No tag stands in the names and the address of an interface in tables without brackets. -/
lemma Unbracketed.clean_of_holds (hplain : t.Unbracketed) (ht : t.Sound key)
    (hk : key.length = SecretBox.keySize) (ha : t.Holds key a) :
    Clean [] a.network.name.toList ∧ Clean [] a.device.name.toList ∧
      Clean [] a.device.addr.text.toList := by
  obtain ⟨items, hlisted, -, hmem, -⟩ := ht.listed_eq hk
  obtain ⟨item, hitem, rfl⟩ := List.mem_map.mp ((hmem a).mpr ha)
  exact (hplain.of_listed hlisted item hitem).imp clean_of_unbracketed (.imp clean_of_unbracketed
    clean_of_unbracketed)

end Tables

namespace CommandLine

variable {s : Setting} {home : Path} {c : Config} {w : Site} {named : Option String}

/-- How the program ends when the command is given on the host of the site. -/
def endsWith (s : Setting) (verbose : Bool) (w : Site) (c : Command) : Outcome :=
  ((run s (c.words verbose)).run w.host).1

/-- What displaying the store of a home comes to. -/
structure Displays (s : Setting) (verbose : Bool) (named : Option String) (w : Site) : Prop where
  /-- Where tags are names, the list is printed exactly if both names of every interface can be shown. -/
  status : (∀ a, w.tables.Holds w.mounted.store.key a → View.ListNamed a) →
    (endsWith s verbose w (.status named)).Prints
      (∀ a, w.tables.Holds w.mounted.store.key a →
        WellMarked a.network.name ∧ WellMarked a.device.name)
  /-- Where tags are names, an interface is printed exactly if everything in its panel and its table can
  be shown. -/
  show_ : ∀ a, w.tables.Holds w.mounted.store.key a →
    (Command.show_ a.device.name a.network.name named).IsPlain →
      ∃ last, w.tables.IsNewest a.id last ∧ (View.PanelNamed a last →
        (endsWith s verbose w (.show_ a.device.name a.network.name named)).Prints
          (View.Presentable a last))
  /-- As long as no stored text has a bracket, everything is printed. -/
  unbracketed : w.tables.Unbracketed → (endsWith s verbose w (.status named)).exitCode = 0 ∧
    ∀ a, w.tables.Holds w.mounted.store.key a →
      (Command.show_ a.device.name a.network.name named).IsPlain →
        (endsWith s verbose w (.show_ a.device.name a.network.name named)).exitCode = 0

lemma Outcome.Prints.of_eq {o o' : Outcome} {p : Prop} (h : o'.Prints p)
    (hcode : o.exitCode = o'.exitCode) (hexception : o.exception = o'.exception) : o.Prints p := by
  rw [Prints, hcode, hexception]
  exact h

/-- A command prints what it is asked for from the store of the home. -/
lemma prints_of_answer (hw : w.Steady) (hbelongs : Belongs s.reader w home c) (hhome : home.IsRooted)
    (command : Command) (hs : s.home command.home? = .ok home) (hplain : command.IsPlain) (verbose : Bool)
    {p : Prop} (hprints : ∀ now, ∃ printout,
      command.answer s.columns now w.tables w.mounted.store.key = .ok printout ∧
        (Outcome.ofPrintout 0 printout).Prints p) :
    (endsWith s verbose w command).Prints p := by
  obtain ⟨w', hopened, htables, hstore⟩ := hbelongs.opened hw
  obtain ⟨now, -, hrun⟩ := Command.run_of_opened hs hhome hopened
  obtain ⟨printout, hanswer, hprinted⟩ := hprints now
  rw [htables, hstore, hanswer] at hrun
  obtain ⟨hcode, hexception, -⟩ := run_words s verbose hplain w.host
  rw [hrun] at hcode hexception
  exact hprinted.of_eq hcode hexception

lemma prints_status (hw : w.Steady) (hsound : w.tables.Sound w.mounted.store.key)
    (hbelongs : Belongs s.reader w home c) (hhome : home.IsRooted) (hs : s.home named = .ok home)
    (verbose : Bool) (hnamed : ∀ a, w.tables.Holds w.mounted.store.key a → View.ListNamed a) :
    (endsWith s verbose w (.status named)).Prints
      (∀ a, w.tables.Holds w.mounted.store.key a →
        WellMarked a.network.name ∧ WellMarked a.device.name) := by
  obtain ⟨items, hlisted, -, hmem, -⟩ := hsound.listed_eq hw.key
  simp only [← hmem, List.forall_mem_map] at hnamed ⊢
  refine prints_of_answer hw hbelongs hhome (.status named) hs trivial verbose fun now =>
    ⟨View.interfaces s.columns now items, ?_, View.prints_interfaces s.columns now hnamed⟩
  rw [Command.answer, hlisted]
  rfl

lemma prints_show (hw : w.Steady) (hsound : w.tables.Sound w.mounted.store.key)
    (hbelongs : Belongs s.reader w home c) (hhome : home.IsRooted) (hs : s.home named = .ok home)
    (verbose : Bool) {a : Interface} (ha : w.tables.Holds w.mounted.store.key a)
    (hplain : (Command.show_ a.device.name a.network.name named).IsPlain) :
    ∃ last, w.tables.withLast w.mounted.store.key a.device.name a.network.name = .ok (a, last) ∧
      w.tables.IsNewest a.id last ∧ (View.PanelNamed a last →
        (endsWith s verbose w (.show_ a.device.name a.network.name named)).Prints
          (View.Presentable a last)) := by
  obtain ⟨last, hlast, hnewest⟩ := hsound.withLast_eq hw.key ha
  refine ⟨last, hlast, hnewest, fun hnamed => ?_⟩
  let command : Command := .show_ a.device.name a.network.name named
  refine prints_of_answer hw hbelongs hhome command hs hplain verbose fun now => ?_
  refine ⟨View.interface s.columns a last, ?_, View.prints_interface s.columns hnamed⟩
  rw [Command.answer, hlast]
  rfl

/-- Whatever a store has taken in, its list is printed unless a name closes a style that it has not
opened, and an interface is printed unless something in its panel or its table does. -/
theorem displays_stored (hw : w.Reachable) (hbelongs : Belongs s.reader w home c)
    (huser : ∃ text, s.userHome = Path.ofText text) (hs : s.home named = .ok home) (verbose : Bool) :
    Displays s verbose named w := by
  obtain ⟨hsteady, hsound⟩ := hw.spec
  have hhome := isRooted_of_home huser hs
  have hstatus := prints_status hsteady hsound hbelongs hhome hs verbose
  have hshow := fun a ha => @prints_show s home c w named hsteady hsound hbelongs hhome hs verbose a ha
  refine ⟨hstatus, fun a ha hplain => ?_, fun htables => ⟨?_, fun a ha hplain => ?_⟩⟩
  · obtain ⟨last, -, hnewest, hprints⟩ := hshow a ha hplain
    exact ⟨last, hnewest, hprints⟩
  · have hclean := fun a ha => htables.clean_of_holds hsound hsteady.key (a := a) ha
    refine (hstatus fun a ha => ?_).exitCode_eq fun a ha => ?_
    · obtain ⟨hnetwork, hdevice, haddr⟩ := hclean a ha
      exact ⟨hnetwork.1, hdevice.1, haddr.1⟩
    · obtain ⟨hnetwork, hdevice, -⟩ := hclean a ha
      exact ⟨hnetwork.2, hdevice.2⟩
  · obtain ⟨last, hlast, -, hprints⟩ := hshow a ha hplain
    have hplain := htables.of_withLast hlast
    exact (hprints hplain.panelNamed).exitCode_eq hplain.presentable

/-! ## A home with one network -/

/-- The store of the home `agent`, just opened and still empty. -/
def agentSite : Site :=
  ⟨{ store := ⟨"agent/meshgarden.db", List.replicate SecretBox.keySize 0⟩
     place := some ["agent", "meshgarden.db"] },
    Home.noteOpened "agent/meshgarden.db" (agentHost {})⟩

lemma reachable_agentSite : agentSite.Reachable := by
  have hconnect : exec (Home.connect "agent/meshgarden.db") (agentHost {}) =
      (.ok (some ["agent", "meshgarden.db"]), agentHost {}) :=
    Home.exec_connect_of_database ⟨by decide, by decide +kernel⟩ (by decide +kernel) rfl
  exact .opened ⟨_, List.replicate SecretBox.keySize 0, agentHost {},
    Home.exec_openDatabase rfl hconnect⟩ rfl

/-- The store once an interface on a network of the given name has been put into it. -/
def agentOn (network : String) : Site :=
  let addr : Address := .v4 ⟨0, Address.fullPrefix4⟩
  let key : Bytes := List.replicate Key.size 0
  (agentSite.call {} (.ensure
    { id := 0, apiUrl := "", network := ⟨"", network, addr⟩
      device := { id := "", name := "laptop", addr, publicKey := key }, key
      deviceToken := [] })).2

/-- A network and a device with plain names are shown in the list and in a panel. -/
theorem displays_stored_of_office :
    let w := agentOn "office"
    (w.Reachable ∧ Belongs agentSetting.reader w (Path.ofText "agent") {} ∧
      (∃ text, agentSetting.userHome = Path.ofText text) ∧
      agentSetting.home (some "agent") = .ok (Path.ofText "agent")) ∧
    (endsWith agentSetting false w (.status (some "agent"))).exitCode = 0 ∧
    (endsWith agentSetting false w (.show_ "laptop" "office" (some "agent"))).exitCode = 0 := by
  intro w
  have hw : w.Reachable := reachable_agentSite.call {} _
  have hbelongs : Belongs agentSetting.reader w (Path.ofText "agent") {} :=
    ⟨by decide +kernel, by decide +kernel, by decide +kernel, by decide +kernel⟩
  have hs : agentSetting.home (some "agent") = .ok (Path.ofText "agent") := by decide +kernel
  have hdisplays := displays_stored hw hbelongs ⟨"/root", rfl⟩ hs false
  have hplain : w.tables.Unbracketed :=
    ⟨by decide +kernel, by decide +kernel, by decide +kernel, by decide +kernel⟩
  obtain ⟨hstatus, hshow⟩ := hdisplays.unbracketed hplain
  refine ⟨⟨hw, hbelongs, ⟨"/root", rfl⟩, hs⟩, hstatus, ?_⟩
  have hrow : ∃ r ∈ w.tables.interfaces, r.deviceName = "laptop" ∧ r.netName = "office" := by
    decide +kernel
  obtain ⟨r, hr, hdevice, hnetwork⟩ := hrow
  obtain ⟨a, ha, hstores⟩ := hw.spec.2.exists_holds hr
  obtain ⟨hadevice, hanetwork⟩ := Tables.stores_names hstores
  rw [← hdevice, ← hnetwork, hadevice, hanetwork]
  refine hshow a ha ⟨?_, ?_⟩
  · rw [← hadevice, hdevice]
    decide
  · rw [← hanetwork, hnetwork]
    decide

/-- A network whose name is a closing tag keeps the list from being printed. -/
theorem status_of_closing_tag_fails :
    let w := agentOn "[/]"
    w.Reachable ∧ Belongs agentSetting.reader w (Path.ofText "agent") {} ∧
      (endsWith agentSetting false w (.status (some "agent"))).exitCode = 1 ∧
      ∃ t, (endsWith agentSetting false w (.status (some "agent"))).exception = some (.markup t) := by
  intro w
  have hw : w.Reachable := reachable_agentSite.call {} _
  have hbelongs : Belongs agentSetting.reader w (Path.ofText "agent") {} :=
    ⟨by decide +kernel, by decide +kernel, by decide +kernel, by decide +kernel⟩
  have hs : agentSetting.home (some "agent") = .ok (Path.ofText "agent") := by decide +kernel
  have hhome : (Path.ofText "agent").IsRooted := Path.isRooted_ofText _
  have hrows : ∀ r ∈ w.tables.interfaces,
      r.netName = "[/]" ∧ '[' ∉ r.deviceName.toList ∧ '[' ∉ r.deviceAddr.toList := by decide +kernel
  have hmark : Named "[/]".toList := by
    have htags : tags "[/]".toList = [['/']] := (tags_tag rfl).trans (congrArg _ tags_nil)
    rw [Named, htags, List.forall_mem_singleton]
    exact ⟨by decide, by decide⟩
  have hnamed : ∀ a, w.tables.Holds w.mounted.store.key a → View.ListNamed a := by
    rintro a ⟨r, hr, hstores⟩
    obtain ⟨hnetwork, hname, haddr⟩ := hrows r hr
    rw [(Tables.stores_names hstores).1] at hname
    rw [(Tables.stores_names hstores).2] at hnetwork
    rw [Tables.stores_addr hstores] at haddr
    exact ⟨hnetwork ▸ hmark, named_of_unbracketed hname,
      named_of_unbracketed haddr⟩
  have hrow : ∃ r ∈ w.tables.interfaces, r.netName = "[/]" := by decide +kernel
  obtain ⟨r, hr, hnetwork⟩ := hrow
  obtain ⟨a, ha, hstores⟩ := hw.spec.2.exists_holds hr
  have hprints := prints_status hw.spec.1 hw.spec.2 hbelongs hhome hs false hnamed
  obtain ⟨-, -, hall⟩ | ⟨hcode, hexception, -⟩ := hprints
  · have hmarked := (hall a ha).1
    rw [← (Tables.stores_names hstores).2, hnetwork] at hmarked
    exact absurd hmarked (not_closes_of_closing rfl)
  · exact ⟨hw, hbelongs, hcode, hexception⟩

end CommandLine

end MeshAgent
