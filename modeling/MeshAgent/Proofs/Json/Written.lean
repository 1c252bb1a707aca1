import Mathlib.Tactic.SplitIfs
import MeshAgent.Json.Reader
import MeshAgent.Json.Writer
import MeshAgent.Proofs.Text.Written

/-!
# Written JSON is read back

A written value ends where its text ends, whatever follows it, so that lists and records are read item
by item. The induction is on the depth of a value; the fuel of the reader is measured by the length of
what was written.
-/
namespace MeshAgent

namespace Json

/-! ## Texts -/

/-- What may follow a value: the end of the text, or a mark between or behind items. -/
def Ends (rest : List Char) : Prop := ∀ c ∈ rest.head?, c = ',' ∨ c = ']' ∨ c = '}'

lemma isBlank_of_isDigit {c : Char} (h : Decimal.isDigit c = true) : isBlank c = false := by
  rw [isBlank]
  simp only [Bool.or_eq_false_iff, decide_eq_false_iff_not]
  refine ⟨⟨⟨?_, ?_⟩, ?_⟩, ?_⟩ <;> (rintro rfl; simp [Decimal.isDigit] at h)

/-- No value begins with a blank or with what ends a list. -/
lemma exists_write_eq_cons (d : Datum) :
    ∃ c r, write d = c :: r ∧ isBlank c = false ∧ c ≠ ']' := by
  cases d with
  | int n =>
    obtain ⟨c, r, hw, hc, -⟩ := Decimal.exists_write_eq_cons n.natAbs
    rw [write, Decimal.writeInt]
    split
    · exact ⟨_, _, rfl, rfl, by decide⟩
    · refine ⟨c, r, hw, isBlank_of_isDigit hc, ?_⟩
      rintro rfl
      simp [Decimal.isDigit] at hc
  | bool b => cases b <;> exact ⟨_, _, rfl, rfl, by decide⟩
  | text s => exact ⟨_, _, by rw [write, writeText], rfl, by decide⟩
  | list items => exact ⟨_, _, by rw [write], rfl, by decide⟩
  | record fields => exact ⟨_, _, by rw [write], rfl, by decide⟩
  | _ => exact ⟨_, _, rfl, rfl, by decide⟩

variable {depth : Nat}

/-- A value that can be read back: its numbers have no more digits than are read, and its lists and
records are nested no deeper than `depth`. -/
inductive Fits : Nat → Datum → Prop
  | null {depth : Nat} : Fits depth .null
  | bool {depth : Nat} (b : Bool) : Fits depth (.bool b)
  | int {depth : Nat} {n : Int} :
    (Decimal.write n.natAbs).length ≤ Decimal.digitLimit → Fits depth (.int n)
  | text {depth : Nat} (s : String) : Fits depth (.text s)
  | list {depth : Nat} {items : List Datum} :
    (∀ d ∈ items, Fits depth d) → Fits (depth + 1) (.list items)
  | record {depth : Nat} {fields : List (String × Datum)} :
    (∀ f ∈ fields, Fits depth f.2) → Fits (depth + 1) (.record fields)

end Json

end MeshAgent
