import Mathlib.Algebra.Group.Nat.Defs
import Mathlib.Data.List.TakeDrop
import Mathlib.Tactic.Lemma
import MeshAgent.Bytes
import MeshAgent.Text.Split

/-!
# Reading what was written

Joining pieces and cutting the text again gives the pieces back. A text without pieces still is one
empty piece. Digits that were written are read back, and none of them is a mark.
-/
namespace MeshAgent

/-- A list whose items are read back is read back. -/
lemma mapM_read {m : Type → Type} [Monad m] [LawfulMonad m] {α β : Type} {read : β → m α}
    {write : α → β} {as : List α} (h : ∀ a ∈ as, read (write a) = pure a) :
    (as.map write).mapM read = pure as := by
  induction as with
  | nil => rfl
  | cons a as ih =>
    rw [List.map_cons, List.mapM_cons, h a List.mem_cons_self, pure_bind,
      ih fun b hb => h b (List.mem_cons_of_mem _ hb), pure_bind]

namespace Text

/-- The pieces of a text that was joined; no pieces make an empty one. -/
def parts (ps : List (List Char)) : List (List Char) := if ps = [] then [[]] else ps

lemma pieces_of_not_mem {mark : Char} {cs : List Char} (h : mark ∉ cs) :
    pieces mark cs = [cs] := by
  induction cs with
  | nil => rfl
  | cons c cs ih =>
    simp only [List.mem_cons, not_or] at h
    rw [pieces, if_neg (Ne.symm h.1), ih h.2]

lemma pieces_append {mark : Char} {a : List Char} (h : mark ∉ a) (b : List Char) :
    pieces mark (a ++ mark :: b) = a :: pieces mark b := by
  induction a with
  | nil => simp [pieces]
  | cons c a ih =>
    simp only [List.mem_cons, not_or] at h
    rw [List.cons_append, pieces, if_neg (Ne.symm h.1), ih h.2]

lemma pieces_join_append {mark : Char} {ps : List (List Char)} (h : ∀ p ∈ ps, mark ∉ p)
    (b : List Char) : pieces mark (join [mark] ps ++ mark :: b) = parts ps ++ pieces mark b := by
  induction ps with
  | nil => simp [join, pieces, parts]
  | cons p ps ih =>
    have hp := h p List.mem_cons_self
    cases ps with
    | nil => exact pieces_append hp b
    | cons q ps =>
      have hrest := ih fun r hr => h r (List.mem_cons_of_mem _ hr)
      simp only [join, List.append_assoc, List.cons_append, List.nil_append] at hrest ⊢
      rw [pieces_append hp, hrest]
      rfl

lemma pieces_join {mark : Char} {ps : List (List Char)} (h : ∀ p ∈ ps, mark ∉ p) :
    pieces mark (join [mark] ps) = parts ps := by
  induction ps with
  | nil => rfl
  | cons p ps ih =>
    have hp := h p List.mem_cons_self
    cases ps with
    | nil => exact pieces_of_not_mem hp
    | cons q ps =>
      have hrest := ih fun r hr => h r (List.mem_cons_of_mem _ hr)
      simp only [join, List.append_assoc, List.singleton_append]
      rw [pieces_append hp, hrest]
      rfl

/-- A character that is no mark stays in one of the pieces. -/
lemma exists_mem_pieces {mark c : Char} {cs : List Char} (h : c ∈ cs) (hc : c ≠ mark) :
    ∃ p ∈ pieces mark cs, c ∈ p := by
  induction cs with
  | nil => simp at h
  | cons d cs ih =>
    rw [pieces]
    by_cases hd : d = mark
    · rw [if_pos hd]
      have hin : c ∈ cs := by
        rcases List.mem_cons.mp h with rfl | hin
        · exact absurd hd hc
        · exact hin
      obtain ⟨p, hp, hcp⟩ := ih hin
      exact ⟨p, List.mem_cons_of_mem _ hp, hcp⟩
    · rw [if_neg hd]
      cases hps : pieces mark cs with
      | nil =>
        rw [hps] at ih
        rcases List.mem_cons.mp h with rfl | hin
        · exact ⟨[c], by simp, by simp⟩
        · obtain ⟨p, hp, -⟩ := ih hin
          simp at hp
      | cons q qs =>
        rw [hps] at ih
        rcases List.mem_cons.mp h with rfl | hin
        · exact ⟨c :: q, by simp, by simp⟩
        · obtain ⟨p, hp, hcp⟩ := ih hin
          rcases List.mem_cons.mp hp with rfl | hp
          · exact ⟨d :: p, by simp, List.mem_cons_of_mem _ hcp⟩
          · exact ⟨p, List.mem_cons_of_mem _ hp, hcp⟩

lemma mem_join {mark c : Char} {ps : List (List Char)} (h : c ∈ join [mark] ps) :
    c = mark ∨ ∃ p ∈ ps, c ∈ p := by
  induction ps with
  | nil => simp [join] at h
  | cons p ps ih =>
    cases ps with
    | nil => exact Or.inr ⟨p, by simp, h⟩
    | cons q ps =>
      simp only [join, List.append_assoc, List.mem_append, List.mem_singleton] at h
      rcases h with h | h | h
      · exact Or.inr ⟨p, by simp, h⟩
      · exact Or.inl h
      · rcases ih h with h | ⟨r, hr, hc⟩
        · exact Or.inl h
        · exact Or.inr ⟨r, List.mem_cons_of_mem _ hr, hc⟩

lemma mark_mem_join {mark : Char} {ps : List (List Char)} (h : 2 ≤ ps.length) :
    mark ∈ join [mark] ps := by
  obtain _ | ⟨p, _ | ⟨q, ps⟩⟩ := ps
  · simp at h
  · simp at h
  · simp [join]

lemma length_hexPad (width n : Nat) : (hexPad width n).length = width := by
  induction width generalizing n with
  | zero => rfl
  | succ w ih => simp [hexPad, ih]

lemma mem_hexPad {width n : Nat} {c : Char} (h : c ∈ hexPad width n) :
    ∃ d < 16, c = hexDigit d := by
  induction width generalizing n with
  | zero => simp [hexPad] at h
  | succ w ih =>
    rw [hexPad, List.mem_append, List.mem_singleton] at h
    rcases h with h | rfl
    · exact ih h
    · exact ⟨n % 16, by omega, by simp [hexDigit]⟩

lemma hexDigit_not_mark {d : Nat} (h : d < 16) :
    hexDigit d ≠ ':' ∧ hexDigit d ≠ '.' ∧ hexDigit d ≠ '%' ∧ hexDigit d ≠ '/' := by
  have hall : ∀ k : Fin 16, hexDigit k ≠ ':' ∧ hexDigit k ≠ '.' ∧ hexDigit k ≠ '%' ∧
      hexDigit k ≠ '/' := by decide
  exact hall ⟨d, h⟩

end Text

namespace Bytes

lemma hexValue?_hexDigit (n : Nat) : hexValue? (Text.hexDigit n) = some (n % 16) := by
  have hall : ∀ k : Fin 16, hexValue? (Text.hexDigit k) = some k.val := by decide
  have hdigit : Text.hexDigit n = Text.hexDigit (n % 16) := by simp [Text.hexDigit]
  rw [hdigit]
  exact hall ⟨n % 16, by omega⟩

/-- The digits of a number that fits are read back one by one. -/
lemma mapM_hexValue?_hexPad (width n : Nat) :
    ∃ ds, (Text.hexPad width n).mapM hexValue? = some ds ∧
      ds.foldl (fun acc d => acc * 16 + d) 0 = n % 16 ^ width := by
  induction width generalizing n with
  | zero => exact ⟨[], rfl, (Nat.mod_one n).symm⟩
  | succ w ih =>
    obtain ⟨ds, hds, hfold⟩ := ih (n / 16)
    refine ⟨ds ++ [n % 16], ?_, ?_⟩
    · simp [Text.hexPad, List.mapM_append, hds, hexValue?_hexDigit]
    · rw [List.foldl_append, hfold]
      have hpow : 16 ^ (w + 1) = 16 * 16 ^ w := by rw [Nat.pow_succ, Nat.mul_comm]
      rw [hpow, Nat.mod_mul]
      simp only [List.foldl_cons, List.foldl_nil]
      omega

end Bytes

namespace Decimal

lemma isDigit_of_mem_write {n : Nat} {c : Char} (h : c ∈ write n) : isDigit c = true := by
  have hn := isNumeral_write n
  simp only [isNumeral, Bool.and_eq_true, List.all_eq_true] at hn
  exact hn.2 c h

lemma not_mem_write {c : Char} (h : isDigit c = false) (n : Nat) : c ∉ write n := by
  intro hc
  rw [isDigit_of_mem_write hc] at h
  simp at h

lemma length_write_le {n : Nat} (h : n < 1000) : (write n).length ≤ 3 := by
  by_cases h₁ : n < 10
  · simp [write_of_lt h₁]
  · rw [write_of_ge (by omega)]
    by_cases h₂ : n / 10 < 10
    · simp [write_of_lt h₂]
    · rw [write_of_ge (by omega), write_of_lt (by omega)]
      simp

lemma digitChar_ne_zero {d : Nat} (h : d % 10 ≠ 0) : digitChar d ≠ '0' := by
  intro heq
  have hnat := toNat_digitChar d
  rw [heq] at hnat
  have hzero : '0'.toNat = 48 := rfl
  omega

/-- Only zero starts with a zero. -/
lemma head?_write {n : Nat} (h : 0 < n) : (write n).head? ≠ some '0' := by
  induction n using Nat.strongRecOn with
  | _ n ih =>
    by_cases h₁ : n < 10
    · rw [write_of_lt h₁]
      simpa using digitChar_ne_zero (d := n) (by omega)
    · rw [write_of_ge (by omega)]
      have hrest := ih (n / 10) (by omega) (by omega)
      cases hw : write (n / 10) with
      | nil =>
        have hn := isNumeral_write (n / 10)
        simp [hw, isNumeral] at hn
      | cons c cs =>
        rw [hw] at hrest
        simpa using hrest

lemma exists_write_eq_cons (n : Nat) :
    ∃ d r, write n = d :: r ∧ isDigit d = true ∧ (0 < n → d ≠ '0') := by
  have hnumeral := isNumeral_write n
  cases hw : write n with
  | nil => simp [hw, isNumeral] at hnumeral
  | cons d r =>
    refine ⟨d, r, rfl, isDigit_of_mem_write (hw ▸ List.mem_cons_self), fun hn => ?_⟩
    simpa [hw] using head?_write hn

/-- Digits are cut off in front of anything else. -/
lemma span_isDigit_append {ds rest : List Char} (hds : ∀ c ∈ ds, isDigit c = true)
    (hrest : ∀ c ∈ rest.head?, isDigit c = false) :
    (ds ++ rest).span isDigit = (ds, rest) := by
  rw [List.span_eq_takeWhile_dropWhile, List.takeWhile_append_of_pos hds,
    List.dropWhile_append_of_pos hds]
  cases rest with
  | nil => simp
  | cons c rest => simp [hrest c rfl]

end Decimal

end MeshAgent
