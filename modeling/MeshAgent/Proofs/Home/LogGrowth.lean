import MeshAgent.Proofs.Home.Actions
import MeshAgent.Proofs.Home.Callbacks

/-!
# Growth of the log

Entries are only ever added, behind all others and under higher ids. A record of an agent adds one
entry if it succeeds, and a block adds the entries of its callback if it returns. Nothing else adds
any, as long as callbacks leave it to their block to commit and the database does not give up their
transaction.
-/
namespace MeshAgent

namespace Call

/-- The call records what an agent has done. -/
def records {ι : Type} : Call ι → Bool
  | join .. => true
  | refresh .. => true
  | applied .. => true
  | failed .. => true
  | _ => false

/-- A record adds one entry if it succeeds, and other calls add none. -/
lemma length_entered? (config : Config) (s : Store) (now id : Int) (e : Entropy) (t : Tables)
    (c : Call Interface) :
    (c.entered? now id ((c.change config s now e).outcome t)).toList.length =
      match (c.change config s now e).outcome t with
      | .ok _ => if c.records then 1 else 0
      | .error _ => 0 := by
  cases hrun : (c.change config s now e).run t with
  | error f =>
    rw [Change.outcome_of_error hrun, entered?_error]
    rfl
  | ok r =>
    obtain ⟨answer, t'⟩ := r
    rw [Change.outcome_of_ok hrun]
    cases c with
    | join apiUrl privateKey listenPort response message =>
      obtain ⟨a, -, rfl⟩ := Change.run_map_eq_ok hrun
      rfl
    | refresh i response message =>
      obtain ⟨a, -, rfl⟩ := Change.run_map_eq_ok hrun
      rfl
    | applied i message =>
      obtain ⟨entry, -, rfl⟩ := Change.run_map_eq_ok hrun
      rfl
    | failed i operation message =>
      obtain ⟨entry, -, rfl⟩ := Change.run_map_eq_ok hrun
      rfl
    | _ => rfl

end Call

namespace Callback

variable {α : Type}

/-- Every step that a callback can come to has a property. -/
def Steps (P : HandleCall Interface → Prop) : Callback α → Prop
  | done _ => True
  | fail _ => True
  | step c next => P c ∧ ∀ answer, (next answer).Steps P

lemma decision_eq_none {b : Callback α} (hb : b.Steps fun c => c.decides = false) (s : Store)
    (now : Int) (before : Tables) (m : Transaction.Progress) :
    b.decision s now before m = none := by
  induction b generalizing m with
  | done a => rfl
  | fail f => rfl
  | step c next ih =>
    have hrest := ih (c.effect s now before m).1 (hb.2 _) (c.effect s now before m).2
    simpa only [decision, steps, List.find?_cons, hb.1] using hrest

end Callback

/-- Callbacks neither commit nor roll back: what they do is committed by their block, or dropped. -/
def Action.LeavesDecision : Action → Prop
  | event _ => True
  | withLog _ callback => ∀ last, (callback last).Steps fun c => c.decides = false
  | transaction _ callback => callback.Steps fun c => c.decides = false

namespace Site

open Transaction

variable {α : Type} {w : Site}

/-- How many entries the steps of a callback answer in a block that begins now. -/
def appended (w : Site) (i : Interface) (callback : Option Entry → Callback α) : Nat :=
  match w.tables.newest i with
  | .ok last => (w.answered (callback last)).length
  | .error _ => 0

/-- How many entries an action adds to the log. -/
def added (w : Site) (a : Action) : Nat :=
  match a, (w.act a).1 with
  | .event (.call _ c), .ok _ => if c.records then 1 else 0
  | .withLog i callback, .ok _ => w.appended i callback
  | _, _ => 0

/-- The database gives up the transaction that an action begins now. -/
def loses (w : Site) : Action → Bool
  | .event _ => false
  | .withLog i callback =>
    match w.tables.newest i with
    | .ok last => w.givesUp (callback last)
    | .error _ => false
  | .transaction _ callback => w.givesUp callback

lemma phase_of_leavesDecision (w : Site) {callback : Callback α}
    (h : callback.Steps fun c => c.decides = false) (hend : w.givesUp callback = false) :
    ∃ t, (w.course callback).2.phase = .underWay t := by
  have hphase := w.phase_of_course callback hend
  rw [decision, Callback.decision_eq_none h] at hphase
  exact hphase

lemma length_entries_call (hw : w.Steady) (config : Config) (c : Call Interface) :
    (w.entries (.event (.call config c))).length = w.added (.event (.call config c)) := by
  by_cases hopen : w.IsOpen
  · obtain ⟨w', hexec, -⟩ := exec_perform_spec hw hopen config c rfl
    have hlength := c.length_entered? config w.mounted.store w.host.now (w.tables.lastLogId + 1)
      w.host.entropy w.tables
    simp only [entries, added, act, call, hexec, hlength]
    split <;> rename_i hout <;> simp [hout]
  · obtain ⟨hexec, -⟩ := exec_perform_of_closed hw hopen config c
    simp only [entries, added, act, call, hexec, Call.entered?_error]
    rfl

lemma length_entries_withLog (hw : w.Steady) {i : Interface}
    {callback : Option Entry → Callback Unit}
    (h : ∀ last, (callback last).Steps fun c => c.decides = false)
    (hend : w.loses (.withLog i callback) = false) :
    (w.entries (.withLog i callback)).length = w.added (.withLog i callback) := by
  by_cases hopen : w.IsOpen
  · obtain ⟨s, hs, -⟩ := withLog_spec hw hopen i callback
    have hclosed : w.mounted.connection.closed = false := hopen
    cases hlast : w.tables.newest i with
    | error f =>
      simp only [entries, added, act, hs, hclosed, Bool.false_eq_true, if_false, block, hlast]
      rfl
    | ok last =>
      have hblock : w.block i callback = Progress.close (w.course (callback last)) := by
        rw [block, hlast]
      rw [loses, hlast] at hend
      have hlasting : w.lasting (callback last) = w.answered (callback last) :=
        Callback.entriesAfter_eq _ hend []
      have happended : w.appended i callback = (w.lasting (callback last)).length := by
        rw [appended, hlast, hlasting]
      obtain ⟨t, hphase⟩ := w.phase_of_leavesDecision (h last) hend
      simp only [entries, added, act, hs, hclosed, Bool.false_eq_true, if_false, hblock, hlast]
      generalize w.course (callback last) = r at hphase
      obtain ⟨outcome, phase, e⟩ := r
      obtain rfl : phase = .underWay t := hphase
      cases outcome with
      | error f => rfl
      | ok a => exact happended.symm
  · have hclosed : w.mounted.connection.closed = true := closed_of_not_isOpen hopen
    simp only [entries, added, act, withLog_of_closed hopen, hclosed, if_true]
    rfl

lemma length_entries_transaction {write : Bool} {callback : Callback Unit}
    (h : callback.Steps fun c => c.decides = false)
    (hend : w.loses (.transaction write callback) = false) :
    (w.entries (.transaction write callback)).length = w.added (.transaction write callback) := by
  obtain ⟨t, hphase⟩ := w.phase_of_leavesDecision h hend
  simp only [entries, added, hphase]
  split <;> rfl

/-- The number of entries that an action adds is that of the entries in its history. -/
lemma length_entries (hw : w.Steady) {a : Action} (ha : a.LeavesDecision)
    (hend : w.loses a = false) : (w.entries a).length = w.added a := by
  cases a with
  | event e =>
    cases e with
    | call config c => exact length_entries_call hw config c
    | _ => rfl
  | withLog i callback => exact length_entries_withLog hw ha hend
  | transaction write callback => exact length_entries_transaction ha hend

/-- One action adds its entries behind all others. -/
lemma log_act (hw : Reachable w) {a : Action}
    (hfile : w.mounted.place.isSome ∨ a ≠ .event .reopen) (ha : a.LeavesDecision)
    (hend : w.loses a = false) :
    (w.act a).2.tables.log.length = w.tables.log.length + w.added a := by
  obtain ⟨hsteady, hsound⟩ := hw.spec
  obtain ⟨rows, hlog, hread⟩ := hsound.log_evolves (advances_act hsteady hfile).evolves
  have hlength : rows.length = (w.entries a).length := by simpa using congrArg List.length hread
  rw [hlog, List.length_append, hlength, length_entries hsteady ha hend]

/-- From any moment of a run to any later one the log only grows, and what is new stands under higher
ids than all that was there. If its callback leaves the decision to its block, and the database does
not give up its transaction, an action adds one entry for a record that succeeds, and one for each
entry that a block which returns has answered; others add none, and none is added by a failure. -/
theorem log_only_grows (hw : Reachable w) {as : List Action}
    (hfile : w.mounted.place.isSome ∨ .event .reopen ∉ as) :
    (∃ rows, (w.carryOut as).tables.log = w.tables.log ++ rows ∧
      ∀ r ∈ w.tables.log, ∀ s ∈ rows, r.id < s.id) ∧
    (w.carryOut as).tables.log.Pairwise (fun r s => r.id < s.id) ∧
    ∀ as₁ a as₂, as = as₁ ++ a :: as₂ → a.LeavesDecision → (w.carryOut as₁).loses a = false →
      (w.carryOut (as₁ ++ [a])).tables.log.length =
        (w.carryOut as₁).tables.log.length + (w.carryOut as₁).added a := by
  obtain ⟨hsteady, hsound⟩ := hw.spec
  have hordered := (reachable_carryOut hw as).spec.2.log_ordered
  refine ⟨?_, hordered, ?_⟩
  · obtain ⟨rows, hlog, -⟩ := hsound.log_evolves (advances_carryOut hsteady hfile).evolves
    refine ⟨rows, hlog, ?_⟩
    rw [hlog] at hordered
    exact (List.pairwise_append.mp hordered).2.2
  · rintro as₁ a as₂ rfl ha hend
    have hfirst : w.mounted.place.isSome ∨ .event .reopen ∉ as₁ :=
      hfile.imp_right fun hnot hmem => hnot (List.mem_append_left _ hmem)
    have hplace := (advances_carryOut hsteady hfirst).place
    have hthen : (w.carryOut as₁).mounted.place.isSome ∨ a ≠ .event .reopen := by
      rw [hplace]
      exact hfile.imp_right fun hnot heq => hnot (by simp [heq])
    rw [carryOut_append]
    exact log_act (reachable_carryOut hw as₁) hthen ha hend

/-- A block adds one entry if one step of its callback adds one and another step fails. -/
theorem log_only_grows_of_append :
    let key : Bytes := List.replicate Key.size 0
    let addr : Address := .v4 ⟨0, Address.fullPrefix4⟩
    let i : Interface :=
      { id := 1, apiUrl := "", network := ⟨"", "", addr⟩
        device := { id := "", name := "", addr, publicKey := key }, key, deviceToken := [] }
    let stored : Action := .event (.call {} (.ensure i))
    let entered : Action := .withLog i fun _ =>
      .step (.append i "apply" "applied" false "") fun _ =>
        .step (.append { i with id := 2 } "apply" "applied" false "") fun _ => .done ()
    (blank.carryOut [stored, entered]).tables.log.length =
      (blank.carryOut [stored]).tables.log.length + 1 := by
  intro key addr i stored entered
  have hfile : blank.mounted.place.isSome ∨ .event .reopen ∉ [stored, entered] :=
    .inr (by simp [stored, entered])
  have hleaves : entered.LeavesDecision := fun last => ⟨rfl, fun _ => ⟨rfl, fun _ => trivial⟩⟩
  have hkept : (blank.carryOut [stored]).loses entered = false := by decide +kernel
  have hadded : (blank.carryOut [stored]).added entered = 1 := by decide +kernel
  have hcount := (log_only_grows reachable_blank hfile).2.2 [stored] entered [] rfl hleaves hkept
  rw [hadded] at hcount
  exact hcount

/-- Records are not alone in adding entries: a block whose callback appends one adds it too. -/
theorem not_only_records_add_entries :
    let key : Bytes := List.replicate Key.size 0
    let addr : Address := .v4 ⟨0, Address.fullPrefix4⟩
    let i : Interface :=
      { id := 1, apiUrl := "", network := ⟨"", "", addr⟩
        device := { id := "", name := "", addr, publicKey := key }, key, deviceToken := [] }
    let v : Site := (blank.call {} (.ensure i)).2
    let a : Action := .withLog i fun _ =>
      .step (.append i "apply" "applied" false "") fun _ => .done ()
    Reachable v ∧ a.LeavesDecision ∧ (v.act a).1.isOk = true ∧
      v.tables.log.length = 0 ∧ (v.act a).2.tables.log.length = 1 := by
  intro key addr i v a
  refine ⟨reachable_blank.call {} _, fun last => ⟨rfl, fun answer => trivial⟩, ?_, ?_, ?_⟩
  · decide +kernel
  · decide +kernel
  · decide +kernel

end Site

end MeshAgent
