import MeshAgent.Proofs.Home.Opening
import MeshAgent.Proofs.Yaml.Mapping

/-!
# Configurations that were saved

The text of a configuration is a mapping of four entries, which is read back whatever the settings
are. Saving puts it in the place of whatever was there, so loading neither falls back on the default
configuration nor warns.
-/
namespace MeshAgent

namespace Config

open Yaml

/-! ## The text of a file -/

def entries (c : Config) : List (String × Value) :=
  [("api_url", .text c.apiUrl), ("db_file", .text c.dbFile), ("key_file", .text c.keyFile),
   ("listen_port", .int c.listenPort)]

lemma write_eq (c : Config) : c.write = writeEntries c.entries := by
  simp only [write, entries, writeEntries, List.flatMap_cons, List.flatMap_nil, List.append_nil,
    List.append_assoc]
  rfl

lemma isName_of_mem_entries {c : Config} : ∀ e ∈ c.entries, IsName e.1 := by
  have hnames : ∀ e ∈ c.entries, e.1 ∈ ["api_url", "db_file", "key_file", "listen_port"] := by
    simp [entries]
  intro e he
  have hname := hnames e he
  simp only [List.mem_cons, List.not_mem_nil, or_false] at hname
  rcases hname with heq | heq | heq | heq <;> rw [heq] <;>
    exact ⟨List.all_eq_true.mp (by decide), ⟨_, _, rfl, by decide⟩, by decide, by decide⟩

lemma ofDatum_entries (c : Config) :
    ofDatum (.record (c.entries.map fun e => (e.1, e.2.datum))) = .ok c := by
  simp [ofDatum, Field.record, ofFields, Field.optional, Field.find?, Datum.find?, entries,
    Value.datum, Field.text, Field.int, Checked.toExcept]

lemma plainLineEnds_of_not_mem {cs : List Char} (h : '\r' ∉ cs) : plainLineEnds cs = cs := by
  induction cs with
  | nil => rfl
  | cons x cs ih =>
    rw [List.mem_cons, not_or] at h
    rw [plainLineEnds, ih h.2]
    · exact fun r heq => absurd heq (Ne.symm h.1)
    · exact fun heq => absurd heq (Ne.symm h.1)

/-- The text of a configuration is read back, if its port is a number that can be read. -/
theorem ofText_write {c : Config}
    (hport : (Decimal.write c.listenPort.natAbs).length ≤ Decimal.digitLimit) :
    ofText Yaml.load c.write = .ok c := by
  have hfits : ∀ e ∈ c.entries, e.2.Fits := by simpa [entries, Value.Fits] using hport
  have hreturn : '\r' ∉ c.write := fun hin =>
    absurd (isOrdinary_of_mem_writeEntries isName_of_mem_entries '\r' (c.write_eq ▸ hin))
      (by decide)
  rw [ofText, plainLineEnds_of_not_mem hreturn, write_eq,
    load_writeEntries isName_of_mem_entries hfits (List.cons_ne_nil _ _)]
  simp only [bind, Except.bind, ofDatum_entries]
  rfl

lemma ofBytes_write {c : Config}
    (hport : (Decimal.write c.listenPort.natAbs).length ≤ Decimal.digitLimit) :
    ofBytes Yaml.load (Bytes.ofText (String.ofList c.write)) = .ok c := by
  rw [ofBytes, Bytes.toText?_ofText]
  simp only [orRefused_some, bind, Except.bind, String.toList_ofList, ofText_write hport]

end Config

/-! ## Files that are written over -/

namespace Files

/-- A file that was written holds what was written to it. -/
lemma read_of_write {f g : Files} {p : Path} {b : Bytes} (hg : f.write p b = .ok g) :
    g.read p = .ok b := by
  obtain ⟨q, htarget, hwrite⟩ := Except.bind_eq_ok.mp hg
  obtain ⟨hnull, hplace⟩ := target_eq_ok.mp htarget
  have hput : f.find? q ≠ some .directory ∧ f.putPlain p q b = .ok g := by
    split at hwrite
    · cases hwrite
    · next hdir => exact ⟨hdir, hwrite⟩
  obtain ⟨hdir, hput⟩ := hput
  rw [putPlain] at hput
  split at hput
  · obtain rfl := Except.ok.inj hput
    have hgoal : (f.put q (.plain b)).place p = .ok q := place_put hdir _ hplace
    have hnode : (f.put q (.plain b)).node? p = .ok (.plain b) := by
      rw [node?_eq_ok, ← eq_goal hgoal]
      exact ⟨hnull, hgoal, find?_put_self (ne_nil_of_find? hdir)⟩
    exact read_eq_ok.mpr ⟨_, hnode, .inl rfl⟩
  · cases hput
  · cases hput

end Files

/-! ## Saving and loading -/

namespace Home

open Files HostM

variable {home p : Path} {c : Config} {host host' : Host}

lemma exec_saveConfig_eq_ok (h : exec (saveConfig home c) host = (.ok p, host')) :
    p = configFile home ∧
      host'.files.read (configFile home) = .ok (Bytes.ofText (String.ofList c.write)) := by
  rw [saveConfig, exec_bind, exec_change] at h
  cases hdir : host.files.makeDirectory (home / "config") with
  | error failure => simp [hdir] at h
  | ok f =>
    rw [hdir] at h
    simp only at h
    rw [exec_bind, exec_change] at h
    cases hwrite : f.write (configFile home) (Bytes.ofText (String.ofList c.write)) with
    | error failure => simp [hwrite] at h
    | ok g =>
      simp only [hwrite, exec_pure, Prod.mk.injEq, Except.ok.injEq] at h
      obtain ⟨rfl, rfl⟩ := h
      exact ⟨rfl, read_of_write hwrite⟩

/-- Loading gives back what was saved, whatever the file held before, as long as the port has no more
digits than a number that is read may have. The file is there and holds the configuration itself, so
nothing is warned of. -/
theorem loadConfig_after_saveConfig
    (hport : (Decimal.write c.listenPort.natAbs).length ≤ Decimal.digitLimit)
    (hsave : exec (saveConfig home c) host = (.ok p, host')) :
    (∃ bytes, host'.files.read (configFile home) = .ok bytes ∧
        Config.ofBytes Yaml.load bytes = .ok c) ∧
      exec (loadConfig home) host' = (.ok c, host') := by
  obtain ⟨-, hread⟩ := exec_saveConfig_eq_ok hsave
  have hbytes := Config.ofBytes_write hport
  have hpresent : host'.files.isPresent (configFile home) = true := by
    obtain ⟨n, hn, -⟩ := read_eq_ok.mp hread
    exact isPresent_iff.mpr ⟨n, hn⟩
  refine ⟨⟨_, hread, hbytes⟩, ?_⟩
  rw [loadConfig, exec_bind, exec_get]
  simp only [hpresent, Bool.not_true, Bool.false_eq_true, if_false]
  rw [exec_bind, exec_look]
  simp only [hread, hbytes, exec_pure]

/-- A configuration with settings that need quotes and escapes takes the place of a file that makes
no sense. -/
theorem loadConfig_after_saveConfig_of_awkward :
    let home : Path := Path.ofText "home"
    let c : Config :=
      { apiUrl := "yes", dbFile := "", keyFile := " 'a': #\nß\x07", listenPort := -4711 }
    let host : Host :=
      { entropy := ⟨fun _ _ => 0, 0⟩
        files :=
          { nodes := [(["home"], .directory), (["home", "config"], .directory),
              (["home", "config", "config.yaml"], .plain [0x5b])] } }
    ∃ host', exec (saveConfig home c) host = (.ok (configFile home), host') ∧
      exec (loadConfig home) host' = (.ok c, host') := by
  intro home c host
  have hport : (Decimal.write c.listenPort.natAbs).length ≤ Decimal.digitLimit := by decide +kernel
  have hsave : exec (saveConfig home c) host =
      (.ok (configFile home), (exec (saveConfig home c) host).2) := Prod.ext rfl rfl
  exact ⟨_, hsave, (loadConfig_after_saveConfig hport hsave).2⟩

end Home

end MeshAgent
