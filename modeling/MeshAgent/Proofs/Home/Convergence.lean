import MeshAgent.Proofs.Home.Refinement

/-!
# Convergence

An agent never writes an interface without a record about it. So an interface is as it was when it
was last applied as long as that is the last record on it, and only then nothing has to be applied.
-/
namespace MeshAgent

/-- The event writes no interface without a record, as all operations of an agent do. -/
def Event.Recorded : Event → Prop
  | call _ (.ensure _) => False
  | _ => True

lemma Event.Recorded.recorded?_eq {w : Site} {e : Event} (he : e.Recorded) {a : Interface}
    (h : e.written? w = some a) : e.recorded? w = some (a.id, false) := by
  cases e with
  | call config c =>
    rw [written?] at h
    rw [recorded?]
    generalize (w.call config c).1 = outcome at h ⊢
    cases c with
    | ensure i => exact absurd he id
    | join apiUrl privateKey listenPort response message =>
      rcases outcome with f | (_ | _ | b | _ | _ | _) <;> simp [Call.written?] at h
      rw [← h]
      rfl
    | refresh i response message =>
      rcases outcome with f | (_ | _ | b | _ | _ | _) <;> simp [Call.written?] at h
      rw [← h]
      rfl
    | _ => simp [Call.written?] at h
  | _ => simp [written?] at h

/-- Behind a last record that says applied, there is none that does not. -/
lemma lastOn_eq_none_of_append {rs rs' : List (Int × Bool)} {id : Int} (hnot : (id, true) ∉ rs')
    (h : lastOn Prod.fst (rs ++ rs') id = some (id, true)) : lastOn Prod.fst rs' id = none := by
  rw [lastOn_append] at h
  cases hlast : lastOn Prod.fst rs' id with
  | none => rfl
  | some r =>
    rw [hlast] at h
    obtain rfl : r = (id, true) := by simpa using h
    exact absurd (mem_of_lastOn hlast).1 hnot

namespace Site

variable {w : Site} {ws : List Interface} {rs : List (Int × Bool)} {es : List Event}

/-- Every write of a run has its record. -/
lemma mem_records (hes : ∀ e ∈ es, e.Recorded) {a : Interface} (ha : a ∈ w.writes es) :
    (a.id, false) ∈ w.records es := by
  induction es generalizing w with
  | nil => simp [writes] at ha
  | cons e es ih =>
    rw [records, List.mem_append]
    rcases List.mem_append.mp ha with ha | ha
    · have hrecord := (hes e List.mem_cons_self).recorded?_eq (Option.mem_toList.mp ha)
      left
      simp [hrecord]
    · exact Or.inr (ih (fun e he => hes e (List.mem_cons_of_mem _ he)) ha)

/-- What was applied in the last record on it has not been written since it was applied last. -/
lemma lastOn_writes_eq (hes : ∀ e ∈ es, e.Recorded) {id : Int} (hnot : (id, true) ∉ w.records es)
    (h : lastOn Prod.fst (rs ++ w.records es) id = some (id, true)) :
    lastOn Interface.id (ws ++ w.writes es) id = lastOn Interface.id ws id := by
  have hrecords := lastOn_eq_none.mp (lastOn_eq_none_of_append hnot h)
  have hwrites : lastOn Interface.id (w.writes es) id = none :=
    lastOn_eq_none.mpr fun a ha hid => hrecords _ (mem_records hes ha) hid
  rw [lastOn_append, hwrites]
  rfl

/-- A store answers only while it is open. -/
lemma isOpen_of_call_eq_ok (hw : w.Steady) {config : Config} {c : Call Interface} {a : Answer}
    (h : (w.call config c).1 = .ok a) : w.IsOpen := by
  by_cases hopen : w.IsOpen
  · exact hopen
  · obtain ⟨hexec, -⟩ := exec_perform_of_closed hw hopen config c
    rw [call, hexec] at h
    simp at h

/-- What is stored has been written, under an id that a column holds. -/
lemma Follows.lastOn_eq_some (h : w.Follows ws rs) {config : Config} {id : Int} {a : Interface}
    (hstored : (w.call config (.interface id)).1 = .ok (.interface a)) :
    w.IsOpen ∧ lastOn Interface.id ws id = some a ∧ fitsColumn id = true := by
  have hopen := isOpen_of_call_eq_ok h.steady hstored
  have hinterface := (h.presents hopen config).interface id
  rw [hstored] at hinterface
  cases hlast : lastOn Interface.id ws id with
  | none => simp [hlast] at hinterface
  | some b =>
    rw [hlast] at hinterface
    obtain rfl : a = b := by simpa using hinterface
    obtain rfl := (mem_of_lastOn hlast).2
    obtain ⟨r, hr, hstores⟩ := (h.represents.holds a).mpr hlast
    exact ⟨hopen, rfl, hstores.id ▸ h.represents.sound.fits hr⟩

/-- An interface is to be applied unless it was in the last record on it. -/
lemma Follows.needsApply (h : w.Follows ws rs) (hopen : w.IsOpen) (config : Config) {i : Interface}
    (hi : fitsColumn i.id = true) :
    ∃ flag, (w.call config (.needsApply i)).1 = .ok (.flag flag) ∧
      (flag = false ↔ lastOn Prod.fst rs i.id = some (i.id, true)) := by
  obtain ⟨last, hlast, hmark⟩ := h.represents.sound.newest_mark hi
  rw [h.represents.log] at hmark
  have hlook := Change.outcome_look (fun t => t.newest i) w.tables
  rw [hlast] at hlook
  refine ⟨last.all (·.dirty), ?_, ?_⟩
  · rw [call_eq_of_isOpen h.steady hopen, Call.change, Change.outcome_map, Change.logged,
      Change.outcome_bind_ok hlook]
    rfl
  · rw [← hmark]
    cases last <;> simp

/-- Asking whether an interface is to be applied changes nothing. -/
lemma tables_needsApply (hw : w.Steady) (config : Config) (i : Interface) :
    (w.call config (.needsApply i)).2.tables = w.tables := by
  by_cases hopen : w.IsOpen
  · obtain ⟨w', hexec, -, -, -, -, -, htables⟩ :=
      exec_perform_spec hw hopen config (.needsApply i) rfl
    rw [call, hexec]
    refine htables.trans ?_
    rw [Call.change, Change.after_map]
    cases hrun : (Change.logged i fun last => return last.all (·.dirty)).run w.tables with
    | error f => exact Change.after_of_error hrun
    | ok r =>
      rw [Change.after_of_ok hrun]
      exact Change.eq_of_run_logged_pure hrun
  · obtain ⟨hexec, -, htables⟩ := exec_perform_of_closed hw hopen config (.needsApply i)
    rw [call, hexec]
    exact htables

/-- A record is made only while the store is open, and it stays open. -/
lemma isOpen_of_recorded (hw : w.Steady) {e : Event} {r : Int × Bool}
    (h : e.recorded? w = some r) : (w.step e).IsOpen := by
  cases e with
  | call config c =>
    by_cases hopen : w.IsOpen
    · obtain ⟨w', hexec, -, hopen', -⟩ := exec_perform_spec hw hopen config c rfl
      rw [step, call, hexec]
      exact hopen'
    · obtain ⟨hexec, -⟩ := exec_perform_of_closed hw hopen config c
      rw [Event.recorded?, call, hexec, Call.recorded?_error] at h
      simp at h
  | _ => simp [Event.recorded?] at h

/-- An agent's store tells for every stored interface whether it is to be applied, which it is not
if and only if the last record on it says that it was applied. So it is to be applied if it was never
applied, and if it differs from what it was when it was applied last. Asking changes nothing. -/
theorem needsApply_hides_no_change (hw : w.Opened) (hempty : w.tables = {})
    (hes : ∀ e ∈ es, e.Recorded) (hfile : w.mounted.place.isSome ∨ .reopen ∉ es) {config : Config}
    {i a : Interface} (hstored : ((w.run es).call config (.interface i.id)).1 = .ok (.interface a)) :
    (∃ flag, ((w.run es).call config (.needsApply i)).1 = .ok (.flag flag) ∧
      (flag = false ↔ lastOn Prod.fst (w.records es) i.id = some (i.id, true)) ∧
      ((i.id, true) ∉ w.records es → flag = true) ∧
      ∀ es₁ e es₂, es = es₁ ++ e :: es₂ → e.recorded? (w.run es₁) = some (i.id, true) →
        (i.id, true) ∉ (w.run (es₁ ++ [e])).records es₂ →
        ((w.run (es₁ ++ [e])).call config (.interface i.id)).1 ≠ .ok (.interface a) →
        flag = true) ∧
    ((w.run es).call config (.needsApply i)).2.tables = (w.run es).tables := by
  have hfollows := ((follows_of_opened hw hempty).run hfile).1
  rw [List.nil_append, List.nil_append] at hfollows
  obtain ⟨hopen, hlast, hfits⟩ := hfollows.lastOn_eq_some hstored
  obtain ⟨flag, hflag, hiff⟩ := hfollows.needsApply hopen config hfits
  refine ⟨⟨flag, hflag, hiff, fun hnot => ?_, ?_⟩, tables_needsApply hfollows.steady config i⟩
  · rw [← Bool.not_eq_false]
    intro hfalse
    exact hnot (mem_of_lastOn (hiff.mp hfalse)).1
  · rintro es₁ e es₂ rfl hrecord hnot hdiffers
    rw [List.append_cons] at hes hfile hlast hiff
    rw [writes_append] at hlast
    rw [records_append] at hiff
    rw [← Bool.not_eq_false]
    intro hfalse
    refine hdiffers ?_
    have hes₂ : ∀ e' ∈ es₂, e'.Recorded := fun e' he' => hes e' (List.mem_append_right _ he')
    rw [lastOn_writes_eq hes₂ hnot (hiff.mp hfalse)] at hlast
    have hfile₂ : w.mounted.place.isSome ∨ .reopen ∉ es₁ ++ [e] :=
      hfile.imp_right fun hno hmem => hno (List.mem_append_left _ hmem)
    have hfile₁ : w.mounted.place.isSome ∨ .reopen ∉ es₁ :=
      hfile₂.imp_right fun hno hmem => hno (List.mem_append_left _ hmem)
    have hbefore := ((follows_of_opened hw hempty).run hfile₁).1
    have hthen := ((follows_of_opened hw hempty).run hfile₂).1
    have hopenThen : (w.run (es₁ ++ [e])).IsOpen := by
      rw [run_append]
      exact isOpen_of_recorded hbefore.steady hrecord
    have hinterface := (hthen.presents hopenThen config).interface i.id
    rw [List.nil_append, hlast] at hinterface
    exact hinterface

/-- Joined and then applied. -/
theorem needsApply_hides_no_change_of_applied :
    let key : Bytes := List.replicate Key.size 0
    let addr : Address := .v4 ⟨0, Address.fullPrefix4⟩
    let response : JoinResponse :=
      { network := ⟨"", "", addr⟩, device := { id := "", name := "", addr, publicKey := key } }
    let i : Interface := { Agent.joined {} none key none response with id := 1 }
    let es : List Event := [.call {} (.join none key none response ""), .call {} (.applied i "")]
    ((blank.run es).call {} (.needsApply i)).1 = .ok (.flag false) := by
  intro key addr response i es
  have hopened : blank.Opened := opened_inMemory rfl _
  have hes : ∀ e ∈ es, e.Recorded := by simp [es, Event.Recorded]
  have hfile : blank.mounted.place.isSome ∨ .reopen ∉ es := .inr (by simp [es])
  have hopen : (blank.run es).mounted.connection.closed = false := by decide +kernel
  have hwrites : blank.writes es = [i] := by decide +kernel
  have hrecords : blank.records es = [(1, false), (1, true)] := by decide +kernel
  have hpresents := ((follows_of_opened hopened rfl).run hfile).1.presents hopen {}
  have hstored := hpresents.interface 1
  rw [List.nil_append, hwrites] at hstored
  obtain ⟨⟨flag, hflag, hiff, -⟩, -⟩ :=
    @needsApply_hides_no_change _ _ hopened rfl hes hfile {} i i hstored
  rw [hrecords] at hiff
  rw [hflag, hiff.mpr rfl]

end Site

end MeshAgent
