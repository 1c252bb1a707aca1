import MeshAgent.Proofs.Text.Written
import MeshAgent.Proofs.Yaml.Plain
import MeshAgent.Yaml.Value

/-!
# Numbers that were written

A written integer is a sign and digits without a zero in front. No class of plain scalars before the
integers takes it, and no other base than ten does.
-/
namespace MeshAgent

namespace Decimal

lemma isDigit_of_mem_writeInt {n : Int} {c : Char} (h : c ∈ writeInt n) :
    c = '-' ∨ isDigit c = true := by
  rw [writeInt] at h
  split_ifs at h
  · exact (List.mem_cons.mp h).imp_right isDigit_of_mem_write
  · exact .inr (isDigit_of_mem_write h)

lemma not_mem_writeInt {c : Char} (hc : isDigit c = false) (hminus : c ≠ '-') (n : Int) :
    c ∉ writeInt n := by
  intro hin
  rcases isDigit_of_mem_writeInt hin with h | h
  · exact hminus h
  · rw [hc] at h
    cases h

end Decimal

namespace Yaml

open Decimal

variable {n : Int} {c : Char}

lemma isWordChar_of_isDigit (h : isDigit c = true) : isWordChar c = true := by
  have hdigit : (48 ≤ c.toNat && c.toNat ≤ 57) = true := h
  rw [isWordChar, hdigit]
  rfl

lemma isGlyph_of_isDigit (h : isDigit c = true) : isGlyph c = true :=
  isGlyph_of_isWordChar (isWordChar_of_isDigit h)

lemma isGlyph_of_mem_writeInt (h : c ∈ writeInt n) : isGlyph c = true := by
  rcases isDigit_of_mem_writeInt h with rfl | h
  · rfl
  · exact isGlyph_of_isDigit h

/-! ## The class of a number -/

namespace Implicit

lemma dropSign_digits {d : Char} (hd : Decimal.isDigit d = true) (r : List Char) :
    dropSign (d :: r) = d :: r := by
  rw [dropSign]
  · rintro r' heq
    obtain rfl := (List.cons.inj heq).1
    cases hd
  · rintro r' heq
    obtain rfl := (List.cons.inj heq).1
    cases hd

lemma dropSign_writeInt (n : Int) : dropSign (writeInt n) = write n.natAbs := by
  rw [writeInt]
  split_ifs
  · rfl
  · obtain ⟨d, r, hw, hd, -⟩ := exists_write_eq_cons n.natAbs
    rw [hw, dropSign_digits hd]

lemma isInt_writeInt (n : Int) : isInt (writeInt n) = true := by
  rw [isInt, dropSign_writeInt]
  by_cases hn : n.natAbs = 0
  · rw [hn, write_of_lt (by omega)]
    rfl
  · obtain ⟨d, r, hw, hd, hzero⟩ := exists_write_eq_cons n.natAbs
    have hpieces : Text.pieces ':' (write n.natAbs) = [write n.natAbs] :=
      Text.pieces_of_not_mem (not_mem_write rfl _)
    have hall : (write n.natAbs).all isDigitOrUnderscore = true :=
      List.all_eq_true.mpr fun c hc => by
        simp [isDigitOrUnderscore, isDigit, isDigit_of_mem_write hc]
    have hother : ∀ r', write n.natAbs ≠ '0' :: r' :=
      fun r' heq => hzero (by omega) (List.cons.inj (hw.symm.trans heq)).1
    split
    · rfl
    · next heq => exact absurd heq (hother _)
    · next heq => exact absurd heq (hother _)
    · next heq => exact absurd heq (hother _)
    · rw [hpieces]
      simp only [hall, List.all_nil, Bool.and_true]
      rw [hw]
      exact hd

lemma isFloat_writeInt (n : Int) : isFloat (writeInt n) = false := by
  have hdot : '.' ∉ writeInt n := not_mem_writeInt rfl (by decide) n
  have hdigits : '.' ∉ write n.natAbs := not_mem_write rfl _
  have hinfinity : isInfinity (write n.natAbs) = false := by
    rw [isInfinity, List.any_eq_false]
    intro w _ heq
    exact hdigits (by simp [of_decide_eq_true heq])
  have hnan : isNan (writeInt n) = false := by
    rw [isNan, List.any_eq_false]
    intro w _ heq
    exact hdot (by simp [of_decide_eq_true heq])
  rw [isFloat, dropSign_writeInt, Text.cutFirst_of_not_mem hdigits, hinfinity, hnan]
  rfl

lemma isBool_writeInt (n : Int) : isBool (String.ofList (writeInt n)) = false := by
  have hwords : (boolWords.all fun w =>
      w.toList.any fun c => !Decimal.isDigit c && c ≠ '-') = true := by decide
  rw [isBool, ← Bool.not_eq_true, List.contains_iff_mem]
  intro hin
  obtain ⟨c, hc, hother⟩ := List.any_eq_true.mp (List.all_eq_true.mp hwords _ hin)
  simp only [Bool.and_eq_true, Bool.not_eq_true', decide_eq_true_eq] at hother
  rw [String.toList_ofList] at hc
  exact not_mem_writeInt hother.1 hother.2 n hc

end Implicit

theorem implicitTag_writeInt (n : Int) :
    implicitTag (String.ofList (writeInt n)) = Tag.int := by
  have hdrop : Implicit.dropFinalBreak (writeInt n) = writeInt n :=
    if_neg fun heq => not_mem_writeInt rfl (by decide) n (List.mem_of_getLast? heq)
  simp only [implicitTag, String.toList_ofList, hdrop, ne_eq, decide_not, Bool.and_not_self,
    Implicit.isBool_writeInt, Implicit.isFloat_writeInt, Implicit.isInt_writeInt, Bool.false_eq_true,
    if_false, if_true]

lemma isBlank_of_isGlyph (h : isGlyph c = true) : Text.isBlank c = false := by
  rw [isGlyph_iff] at h
  simp only [Text.isBlank, Text.isWhiteSpace, Bool.or_eq_false_iff, Bool.and_eq_false_iff,
    decide_eq_false_iff_not]
  omega

end Yaml

/-! ## The value of a number -/

namespace Numeral

open Decimal

variable {c : Char}

lemma digit?_of_isDigit (h : isDigit c = true) : digit? c = some (digitValue c) ∧ digitValue c < 10 := by
  simp only [isDigit, Bool.and_eq_true, decide_eq_true_eq] at h
  have hrange : '0' ≤ c ∧ c ≤ '9' := h
  have hvalue : Bytes.hexValue? c = some (digitValue c) := by
    rw [Bytes.hexValue?, if_pos hrange]
    rfl
  refine ⟨by rw [digit?, hvalue], ?_⟩
  rw [digitValue]
  omega

lemma foldlM_digits {ds : List Char} (hds : ∀ c ∈ ds, isDigit c = true) (k : Nat) :
    (ds.foldlM (fun acc c => do
      let d ← digit? c
      if d < 10 then some (acc * 10 + d) else none) k : Option Nat) =
      some (ds.foldl (fun n c => 10 * n + digitValue c) k) := by
  induction ds generalizing k with
  | nil => rfl
  | cons c ds ih =>
    rw [List.forall_mem_cons] at hds
    obtain ⟨hvalue, hlt⟩ := digit?_of_isDigit hds.1
    have hfirst : (do
        let d ← digit? c
        if d < 10 then some (k * 10 + d) else none : Option Nat) =
        some (10 * k + digitValue c) := by
      rw [hvalue, Option.bind_eq_bind, Option.bind_some, if_pos hlt, Nat.mul_comm k]
    rw [List.foldlM_cons, hfirst]
    exact ih hds.2 _

lemma inBase?_write (k : Nat) : inBase? 10 (write k) = some k := by
  obtain ⟨d, r, hw, -⟩ := exists_write_eq_cons k
  have hempty : (write k).isEmpty = false := by rw [hw]; rfl
  rw [inBase?, hempty, if_neg Bool.false_ne_true, foldlM_digits fun c => isDigit_of_mem_write]
  exact congrArg some (value_write k)

lemma trim_of_not_blank {cs : List Char} (h : ∀ c ∈ cs, Text.isBlank c = false) :
    Text.trim Text.isBlank cs = cs := by
  have hdrop : ∀ ds : List Char, (∀ c ∈ ds, Text.isBlank c = false) →
      ds.dropWhile Text.isBlank = ds := by
    intro ds hds
    cases ds with
    | nil => rfl
    | cons c ds => rw [List.dropWhile_cons_of_neg (by simp [hds c List.mem_cons_self])]
  rw [Text.trim, hdrop cs h, hdrop _ fun c hc => h c (List.mem_reverse.mp hc), List.reverse_reverse]

/-- No letter stands for base ten. -/
lemma dropBase_ten (cs : List Char) : dropBase 10 cs = cs := by
  rw [dropBase.eq_def]
  simp only [ne_eq, not_true_eq_false, false_and, if_false]
  split <;> rfl

lemma sign_write (k : Nat) : sign (write k) = (false, write k) := by
  obtain ⟨d, r, hw, hd, -⟩ := exists_write_eq_cons k
  rw [hw, sign]
  · rintro r' heq
    obtain rfl := (List.cons.inj heq).1
    cases hd
  · rintro r' heq
    obtain rfl := (List.cons.inj heq).1
    cases hd

lemma sign_writeInt (n : Int) : sign (writeInt n) = (decide (n < 0), write n.natAbs) := by
  rw [writeInt]
  split_ifs with hneg
  · rw [sign, decide_eq_true hneg]
  · rw [sign_write, decide_eq_false hneg]

lemma int?_write {k : Nat} (hk : (write k).length ≤ digitLimit) : int? 10 (write k) = some (k : Int) := by
  have htrim : Text.trim Text.isBlank (write k) = write k :=
    trim_of_not_blank fun c hc =>
      Yaml.isBlank_of_isGlyph (Yaml.isGlyph_of_isDigit (isDigit_of_mem_write hc))
  rw [int?, htrim, sign_write]
  simp only [true_and, Nat.not_lt.mpr hk, if_false, dropBase_ten, inBase?_write, Bool.false_eq_true]
  rfl

end Numeral

namespace Yaml.Scalar

open Decimal

/-- Digits without a zero in front are in base ten. -/
lemma magnitude?_write {k : Nat} (hk : (Decimal.write k).length ≤ digitLimit) :
    magnitude? (Decimal.write k) = some (k : Int) := by
  by_cases hzero : k = 0
  · rw [hzero, write_of_lt (by decide)]
    rfl
  · obtain ⟨d, r, hw, -, hd⟩ := exists_write_eq_cons k
    have hother : ∀ r', Decimal.write k ≠ '0' :: r' :=
      fun r' heq => hd (by omega) (List.cons.inj (hw.symm.trans heq)).1
    have hcolon : (Decimal.write k).contains ':' = false := by
      rw [List.contains_eq_mem]
      exact decide_eq_false (not_mem_write rfl _)
    rw [magnitude?.eq_def]
    split
    · next heq => exact absurd heq (hother _)
    · next heq => exact absurd heq (hother _)
    · next heq => exact absurd heq (hother _)
    · next heq => exact absurd heq (hother _)
    · rw [hcolon, if_neg Bool.false_ne_true, Numeral.int?_write hk]

theorem int_writeInt {n : Int} (hn : (Decimal.write n.natAbs).length ≤ digitLimit) :
    int (String.ofList (writeInt n)) = .ok n := by
  have hfilter : (writeInt n).filter (· ≠ '_') = writeInt n :=
    List.filter_eq_self.mpr fun c hc => decide_eq_true fun heq =>
      not_mem_writeInt rfl (by decide) n (heq ▸ hc)
  have hempty : (Decimal.write n.natAbs).isEmpty = false := by
    obtain ⟨d, r, hw, -⟩ := exists_write_eq_cons n.natAbs
    rw [hw]
    rfl
  have hvalue : (if decide (n < 0) = true then -(n.natAbs : Int) else n.natAbs) = n := by
    by_cases hneg : n < 0
    · rw [if_pos (decide_eq_true hneg)]
      omega
    · rw [if_neg (by simpa using hneg)]
      omega
  rw [int, String.toList_ofList, hfilter, Numeral.sign_writeInt]
  simp only [hempty, Bool.false_eq_true, if_false, magnitude?_write hn, orRefused_some]
  exact congrArg Except.ok hvalue

end Yaml.Scalar

end MeshAgent
