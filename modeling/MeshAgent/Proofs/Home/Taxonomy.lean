import MeshAgent.Proofs.Home.Reachable
import MeshAgent.Proofs.Home.Refinement
import MeshAgent.Proofs.Store.Refusals

/-!
# What reaches the caller

As long as the clock shows a date, a call of a reachable store returns or fails with an agent error,
with one exception: an id or a port that no column holds. The check of a number comes late, so which
calls get that far can be told from their arguments alone.
-/
namespace MeshAgent

lemma Call.exists_refusal_eq (store : Store) (c : Call Interface) :
    ∃ e, c.refusal store = .agent e := by
  rcases c.refusedFor_cases (.agent (Transaction.closedError store)) with h | ⟨e, -, h⟩
  · exact ⟨_, h⟩
  · exact ⟨e, h⟩

namespace Site

variable {w : Site}

/-- The clock of the host shows a date. -/
def ShowsDate (w : Site) : Prop := History.checkTime (w.host.now.fdiv 1000000) = .ok ()

lemma call_eq_of_closed (hw : w.Steady) (hclosed : ¬ w.IsOpen) (config : Config)
    (c : Call Interface) : (w.call config c).1 = .error (c.refusal w.mounted.store) := by
  rw [call, (exec_perform_of_closed hw hclosed config c).1]

/-- Entries of sound tables can be read, so that only agent errors, numbers and the clock are left. -/
lemma known_cases {now : Int} {t : Tables} {key : Bytes} (ht : t.Sound key) {f : Failure}
    (hf : f.Known now t.log) :
    (∃ e, f = .agent e) ∨ f = .integerRange ∨ History.checkTime (now.fdiv 1000000) = .error f := by
  cases hf with
  | agent e => exact Or.inl ⟨e, rfl⟩
  | integerRange => exact Or.inr (Or.inl rfl)
  | clock h => exact Or.inr (Or.inr h)
  | entry hr h =>
    obtain ⟨e, he⟩ := ht.log_readable _ hr
    rw [he] at h
    exact nomatch h

/-- Every call of a reachable store returns, or fails with an agent error, for a number that no column
holds, or for a clock that shows no date. While the clock does show one, numbers are what it fails for
exactly if the store is open and the call hands such a number to the database. -/
theorem call_fails_with_agent_error_or_number (hw : Reachable w) (config : Config)
    {c : Call Interface} (hc : c.NamesOperation) :
    (∀ f, (w.call config c).1 = .error f →
      (∃ e, f = .agent e) ∨ f = .integerRange ∨
        History.checkTime (w.host.now.fdiv 1000000) = .error f) ∧
    (w.ShowsDate →
      ((w.call config c).1 = .error .integerRange ↔ w.IsOpen ∧ c.Overflows config)) := by
  obtain ⟨hsteady, hsound⟩ := hw.spec
  by_cases hopen : w.IsOpen
  · rw [call_eq_of_isOpen hsteady hopen]
    refine ⟨fun f hf => known_cases hsound ?_, fun hclock => ?_⟩
    · exact c.known_failure config w.host.now w.host.entropy hsound.butLog hc f hf
    · rw [c.outcome_eq_integerRange config hsteady.key hclock w.host.entropy hsound hc,
        and_iff_right hopen]
  · obtain ⟨e, he⟩ := c.exists_refusal_eq w.mounted.store
    rw [call_eq_of_closed hsteady hopen, he]
    refine ⟨fun f hf => Or.inl ⟨e, (Except.error.inj hf).symm⟩, fun _ => ?_⟩
    exact iff_of_false (by simp) fun h => hopen h.1

/-- Asking for the interface under the first id that is too large, and reporting a failed step on an
interface that is not stored. -/
theorem call_fails_with_agent_error_or_number_of_blank :
    let addr : Address := .v4 ⟨0, Address.fullPrefix4⟩
    let i : Interface :=
      { apiUrl := "", network := ⟨"", "", addr⟩
        device := { id := "", name := "", addr, publicKey := [] }, key := [], deviceToken := [] }
    (blank.call {} (.interface (maxInteger + 1))).1 = .error .integerRange ∧
      ∃ e, (blank.call {} (.failed i "up" "")).1 = .error (.agent e) := by
  intro addr i
  have hdate : blank.ShowsDate := rfl
  have hlarge := @call_fails_with_agent_error_or_number blank reachable_blank {}
    (.interface (maxInteger + 1)) trivial
  refine ⟨(hlarge.2 hdate).mpr ⟨rfl, rfl⟩, ?_⟩
  obtain ⟨hfails, hnumber⟩ := @call_fails_with_agent_error_or_number blank reachable_blank {}
    (.failed i "up" "") ⟨.up, rfl⟩
  cases hcall : (blank.call {} (.failed i "up" "")).1 with
  | ok answer =>
    have hnone : (blank.call {} (.failed i "up" "")).1.toOption = none := by decide +kernel
    rw [hcall] at hnone
    exact nomatch hnone
  | error f =>
    rw [hcall] at hfails hnumber
    rcases hfails f rfl with ⟨e, rfl⟩ | rfl | hclock
    · exact ⟨e, rfl⟩
    · exact absurd ((hnumber hdate).mp rfl).2 (by simp [Call.Overflows, i, fitsColumn, maxInteger])
    · exact absurd (hdate.symm.trans hclock) (by simp)

/-- No agent error says that an interface cannot be there since its id is too large. -/
theorem lookup_of_large_id_is_no_agent_error :
    Reachable blank ∧ blank.ShowsDate ∧
      ∃ f, (blank.call {} (.interface (maxInteger + 1))).1 = .error f ∧ ∀ e, f ≠ .agent e :=
  ⟨reachable_blank, rfl, .integerRange, rfl, fun _ h => nomatch h⟩

end Site

end MeshAgent
