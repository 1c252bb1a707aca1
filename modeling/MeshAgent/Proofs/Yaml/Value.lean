import MeshAgent.Proofs.Yaml.Number
import MeshAgent.Proofs.Yaml.Scalar

/-!
# Values of an entry

What an entry of a written mapping holds: a text, in the first style that it fits, or an integer. Each
of them is one token and one node, and the node has the value that was written.
-/
namespace MeshAgent.Yaml

inductive Value
  | text (s : String)
  | int (n : Int)

namespace Value

def write (column : Nat) : Value → List Char
  | text s => Scalar.write column s
  | int n => Decimal.writeInt n

def token : Value → Token
  | text s => .scalar s (ScalarStyle.of s.toList = .plain)
  | int n => .scalar (String.ofList (Decimal.writeInt n)) true

def node : Value → Node
  | text s => .scalar Tag.text s
  | int n => .scalar Tag.int (String.ofList (Decimal.writeInt n))

def datum : Value → Datum
  | text s => .text s
  | int n => .int n

/-- A number that is not too long to be read. -/
def Fits : Value → Prop
  | text _ => True
  | int n => (Decimal.write n.natAbs).length ≤ Decimal.digitLimit

end Value

variable {w cs : List Char}

namespace IsWord

lemma isPlain (h : IsWord w) : IsPlain w := by
  have hspace : ' ' ∉ w := fun hin => absurd (h.glyph ' ' hin) (by decide)
  refine ⟨fun x hx => .inr (h.glyph x hx), ?_, ?_, fun hin => hspace (hin.subset (by simp)),
    fun hin => hspace (hin.subset (by simp))⟩
  · cases w with
    | nil => exact absurd rfl h.ne_nil
    | cons x w =>
      exact ⟨x, w, rfl, h.glyph x List.mem_cons_self, fun heq => h.hash (by rw [heq]; rfl)⟩
  · rcases List.eq_nil_or_concat w with rfl | ⟨r, x, rfl⟩
    · exact absurd rfl h.ne_nil
    · exact ⟨r, x, List.concat_eq_append, h.glyph x (by simp), fun heq => h.colon (by simp [heq])⟩

lemma laid (h : IsWord w) : Laid false w w := by
  have hword : Laid false w (doubled false w) := .word h.glyph
  rwa [doubled_false] at hword

end IsWord

lemma isWord_writeInt (n : Int) : IsWord (Decimal.writeInt n) := by
  refine ⟨?_, fun x => isGlyph_of_mem_writeInt, fun heq => ?_, fun heq => ?_⟩
  · obtain ⟨d, r, hw, -⟩ := Decimal.exists_write_eq_cons n.natAbs
    rw [Decimal.writeInt, hw]
    split_ifs <;> exact List.cons_ne_nil _ _
  · exact Decimal.not_mem_writeInt rfl (by decide) n (List.mem_of_head? heq)
  · exact Decimal.not_mem_writeInt rfl (by decide) n (List.mem_of_getLast? heq)

/-- A minus is an indicator only where a gap follows. -/
lemma startsWithIndicator_writeInt (n : Int) :
    ScalarStyle.startsWithIndicator (Decimal.writeInt n) = false := by
  obtain ⟨d, r, hw, hd, -⟩ := Decimal.exists_write_eq_cons n.natAbs
  have hgap : isGap d = false := isGap_of_isGlyph (isGlyph_of_isDigit hd)
  rw [Decimal.writeInt, hw]
  split_ifs
  · exact hgap
  · refine startsWithIndicator_of_isWordChar (isWordChar_of_isDigit hd) ?_ r
    rintro rfl
    cases hd

/-! ## Styles -/

namespace ScalarStyle

lemma fitsPlain_of_plain (h : of cs = .plain) : fitsPlain cs = true := by
  rw [of] at h
  split_ifs at h with hplain
  exact hplain

lemma fitsSingle_of_single (h : of cs = .single) : fitsSingle cs = true := by
  rw [of] at h
  split_ifs at h with _ hsingle
  exact hsingle

/-- A plain scalar starts with no indicator and has no class but that of a text. -/
lemma unmarked_of_fitsPlain (h : fitsPlain cs = true) :
    startsWithIndicator cs = false ∧ implicitTag (String.ofList cs) = Tag.text := by
  simp only [fitsPlain, Bool.and_eq_true, Bool.not_eq_true', decide_eq_true_eq] at h
  exact ⟨h.1.1.2, h.2⟩

end ScalarStyle

namespace Value

open Lexer

/-- The token of a value is what is read where the value was written. -/
theorem readAs (v : Value) (column : Nat) : ∃ x, ReadAs (v.write column) v.token x := by
  cases v with
  | int n =>
    exact readAs_plain (isWord_writeInt n).laid (isWord_writeInt n).isPlain
      (startsWithIndicator_writeInt n)
  | text s =>
    rw [write, token, Scalar.write]
    cases hstyle : ScalarStyle.of s.toList with
    | plain =>
      have hplain := ScalarStyle.fitsPlain_of_plain hstyle
      have hs := isPlain_of_fitsPlain hplain
      obtain ⟨x, hread⟩ := readAs_plain (Laid.flow_start hs.foldable column) hs
        (ScalarStyle.unmarked_of_fitsPlain hplain).1
      rw [String.ofList_toList] at hread
      exact ⟨x, hread⟩
    | single =>
      have hs := fitsSingle_iff.mp (ScalarStyle.fitsSingle_of_single hstyle)
      have hread := readAs_quoted false rfl fun rest =>
        Quoted.scans_laid (Laid.flow_start hs (column + 1))
      rw [String.ofList_toList] at hread
      exact ⟨'\'', hread⟩
    | double =>
      have hread := readAs_quoted true rfl fun rest _ =>
        (Quoted.scans_escaped_and_folded s.toList rest).1 true true (column + 1)
      rw [String.ofList_toList] at hread
      exact ⟨'"', hread⟩

lemma isOrdinary_of_mem_write (v : Value) (column : Nat) :
    ∀ x ∈ v.write column, ScalarStyle.isOrdinary x = true := by
  have hquoted : ∀ {q : Char} {t : List Char}, ScalarStyle.isOrdinary q = true →
      (∀ x ∈ t, ScalarStyle.isOrdinary x = true) →
      ∀ x ∈ q :: t ++ [q], ScalarStyle.isOrdinary x = true := by
    intro q t hq ht x hx
    simp only [List.cons_append, List.mem_cons, List.mem_append, List.not_mem_nil, or_false] at hx
    rcases hx with rfl | hx | rfl
    · exact hq
    · exact ht x hx
    · exact hq
  cases v with
  | int n => exact fun x hx => isOrdinary_iff.mpr (.inr (.inr (isGlyph_of_mem_writeInt hx)))
  | text s =>
    rw [write, Scalar.write]
    cases hstyle : ScalarStyle.of s.toList with
    | plain =>
      have hs := isPlain_of_fitsPlain (ScalarStyle.fitsPlain_of_plain hstyle)
      exact (Laid.flow_start hs.foldable column).isOrdinary
    | single =>
      have hs := fitsSingle_iff.mp (ScalarStyle.fitsSingle_of_single hstyle)
      exact hquoted rfl (Laid.flow_start hs (column + 1)).isOrdinary
    | double => exact hquoted rfl (Scalar.isOrdinary_of_mem_escaped true true (column + 1) s.toList)

/-- Without a tag, the style and the text of a scalar decide its class. -/
lemma token_eq (v : Value) : ∃ s plain, v.token = .scalar s plain ∧
    v.node = .scalar (Node.scalarTag none s plain) s := by
  cases v with
  | int n => exact ⟨_, _, rfl, by rw [node, Node.scalarTag, if_pos rfl, implicitTag_writeInt]⟩
  | text s =>
    refine ⟨s, _, rfl, ?_⟩
    by_cases hstyle : ScalarStyle.of s.toList = .plain
    · have htag : implicitTag s = Tag.text := by
        simpa using (ScalarStyle.unmarked_of_fitsPlain (ScalarStyle.fitsPlain_of_plain hstyle)).2
      rw [node, Node.scalarTag, htag, ite_self]
    · rw [node, Node.scalarTag, decide_eq_false hstyle, if_neg Bool.false_ne_true]

lemma value_node {v : Value} (h : v.Fits) : v.node.value = .done v.datum := by
  cases v with
  | text s => rfl
  | int n =>
    have hvalue : Scalar.value Tag.int (String.ofList (Decimal.writeInt n)) = .ok (.int n) := by
      rw [Scalar.value, if_neg (by decide), if_neg (by decide), if_neg (by decide), if_pos rfl,
        Scalar.int_writeInt h]
      rfl
    rw [node, Node.value, if_neg (by decide), hvalue]
    rfl

end Value

end MeshAgent.Yaml
