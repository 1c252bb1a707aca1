import Mathlib.Tactic.Lemma
import MeshAgent.Yaml.Writer

/-!
# Moving through a text

Written text is made of glyphs, spaces and line ends. A glyph moves the column by one and is never
taken for structure by itself; a line end goes back to column zero.
-/
namespace MeshAgent.Yaml

/-- A character of ASCII that leaves ink. -/
def isGlyph (x : Char) : Bool := 33 ≤ x.toNat && x.toNat ≤ 126

section Classes

variable {x : Char}

lemma isGlyph_iff : isGlyph x = true ↔ 33 ≤ x.toNat ∧ x.toNat ≤ 126 := by simp [isGlyph]

lemma isBreak_of_isGlyph (h : isGlyph x = true) : isBreak x = false := by
  simp only [isBreak, Bool.or_eq_false_iff, decide_eq_false_iff_not]
  refine ⟨⟨⟨?_, ?_⟩, ?_⟩, ?_⟩ <;> (rintro rfl; exact absurd h (by decide))

lemma ne_space_of_isGlyph (h : isGlyph x = true) : x ≠ ' ' := by
  rintro rfl
  exact absurd h (by decide)

lemma isGap_of_isGlyph (h : isGlyph x = true) : isGap x = false := by
  simp only [isGap, Bool.or_eq_false_iff, decide_eq_false_iff_not]
  refine ⟨⟨ne_space_of_isGlyph h, ?_⟩, isBreak_of_isGlyph h⟩
  rintro rfl
  exact absurd h (by decide)

lemma isBreak_of_isGap (h : isGap x = false) : isBreak x = false :=
  (Bool.or_eq_false_iff.mp h).2

lemma ne_space_of_isGap (h : isGap x = false) : x ≠ ' ' := by
  rintro rfl
  exact absurd h (by decide)

lemma ne_mark_of_isGlyph (h : isGlyph x = true) : x ≠ '\uFEFF' := by
  rintro rfl
  exact absurd h (by decide)

/-- What can be written without an escape. -/
lemma isOrdinary_iff : ScalarStyle.isOrdinary x = true ↔ x = '\n' ∨ x = ' ' ∨ isGlyph x = true := by
  have hspace : x = ' ' ↔ x.toNat = 32 := ⟨fun h => h ▸ rfl, fun h => Char.toNat_inj.mp h⟩
  rw [isGlyph_iff, hspace]
  simp only [ScalarStyle.isOrdinary, Bool.or_eq_true, Bool.and_eq_true, decide_eq_true_eq]
  refine or_congr_right ?_
  omega

lemma isAllowed_of_isOrdinary (h : ScalarStyle.isOrdinary x = true) : isAllowed x = true := by
  rcases isOrdinary_iff.mp h with rfl | rfl | h
  · rfl
  · rfl
  · rw [isGlyph_iff] at h
    simp only [isAllowed, Bool.or_eq_true, Bool.and_eq_true, decide_eq_true_eq]
    omega

lemma ne_of_isWordChar {y : Char} (h : isWordChar x = true) (hy : isWordChar y = false) :
    x ≠ y := by
  rintro rfl
  rw [h] at hy
  cases hy

lemma isGlyph_of_isWordChar (h : isWordChar x = true) : isGlyph x = true := by
  simp only [isWordChar, Bool.or_eq_true, Bool.and_eq_true, decide_eq_true_eq] at h
  rcases h with ((h | rfl) | rfl)
  · rw [isGlyph_iff]
    omega
  · rfl
  · rfl

/-- Of the word characters only a hyphen can be an indicator. -/
lemma startsWithIndicator_of_isWordChar (h : isWordChar x = true) (hminus : x ≠ '-')
    (r : List Char) : ScalarStyle.startsWithIndicator (x :: r) = false := by
  have hindicators : ("#,[]\x7b\x7d&*!|>'\"%@`".toList.all fun y => !isWordChar y) = true := by
    decide
  have hleading : ScalarStyle.isLeadingIndicator x = false := by
    rw [ScalarStyle.isLeadingIndicator, ← Bool.not_eq_true, List.contains_iff_mem]
    exact fun hin =>
      ne_of_isWordChar h (by simpa using List.all_eq_true.mp hindicators x hin) rfl
  have hquestion : x ≠ '?' := ne_of_isWordChar h rfl
  have hcolon : x ≠ ':' := ne_of_isWordChar h rfl
  simp [ScalarStyle.startsWithIndicator, hleading, hquestion, hcolon, hminus]

end Classes

namespace Cursor

variable {c : Cursor} {p : Char → Bool} {s t : List Char}

@[simp] lemma rest_next (c : Cursor) : c.next.rest = c.rest.tail := by
  rw [next]
  cases h : c.rest with
  | nil => exact h
  | cons x r =>
    simp only [List.tail_cons]
    split
    · rfl
    · split <;> rfl

@[simp] lemma rest_skip (n : Nat) (c : Cursor) : (c.skip n).rest = c.rest.drop n := by
  induction n generalizing c with
  | zero => rfl
  | succ n ih => rw [skip, ih, rest_next, List.drop_tail]

lemma rest_skip_length (h : c.rest = s ++ t) : (c.skip s.length).rest = t := by
  rw [rest_skip, h, List.drop_left]

lemma skip_add (m n : Nat) (c : Cursor) : c.skip (m + n) = (c.skip m).skip n := by
  induction m generalizing c with
  | zero => rw [Nat.zero_add, skip]
  | succ m ih => rw [Nat.succ_add, skip, skip, ih]

lemma skip_one (c : Cursor) : c.skip 1 = c.next := rfl

/-- Glyphs and spaces move the column only. -/
lemma skip_visible (h : c.rest = s ++ t) (hs : ∀ x ∈ s, x = ' ' ∨ isGlyph x = true) :
    c.skip s.length =
      { rest := t, index := c.index + s.length, line := c.line,
        column := c.column + s.length } := by
  induction s generalizing c with
  | nil => cases c; cases h; rfl
  | cons x s ih =>
    have hx : isBreak x = false ∧ x ≠ '\uFEFF' := by
      rcases hs x List.mem_cons_self with rfl | hx
      · exact ⟨rfl, by decide⟩
      · exact ⟨isBreak_of_isGlyph hx, ne_mark_of_isGlyph hx⟩
    have hnext : c.next =
        { rest := s ++ t, index := c.index + 1, line := c.line, column := c.column + 1 } := by
      rw [next, h, List.cons_append]
      simp [hx]
    rw [List.length_cons, skip, ih (by rw [hnext]) fun y hy => hs y (List.mem_cons_of_mem _ hy),
      hnext]
    simp only [Nat.add_assoc, Nat.add_comm 1]

lemma next_newline (h : c.rest = '\n' :: t) :
    c.next = { rest := t, index := c.index + 1, line := c.line + 1, column := 0 } := by
  rw [next, h]
  rfl

lemma rest_span (p : Char → Bool) (c : Cursor) : (c.span p).2.rest = c.rest.dropWhile p :=
  rest_skip_length List.takeWhile_append_dropWhile.symm

lemma span_eq (h : c.rest = s ++ t) (hs : ∀ x ∈ s, p x = true) (ht : ∀ x ∈ t.head?, p x = false) :
    c.span p = (s, c.skip s.length) := by
  have htake : c.rest.takeWhile p = s := by
    rw [h, List.takeWhile_append_of_pos hs]
    cases t with
    | nil => simp
    | cons x t => simp [ht x rfl]
  rw [span, htake]

lemma skipWhile_eq (h : c.rest = s ++ t) (hs : ∀ x ∈ s, p x = true)
    (ht : ∀ x ∈ t.head?, p x = false) : c.skipWhile p = c.skip s.length := by
  rw [skipWhile, span_eq h hs ht]

lemma skipWhile_of_head (h : ∀ x ∈ c.rest.head?, p x = false) : c.skipWhile p = c :=
  skipWhile_eq (s := []) rfl (by simp) h

lemma lineBreak?_newline (h : c.rest = '\n' :: t) : c.lineBreak? = some ('\n', c.next) := by
  rw [lineBreak?, h]
  rfl

lemma lineBreak?_eq_none (h : ∀ x ∈ c.rest.head?, isBreak x = false) : c.lineBreak? = none := by
  rw [lineBreak?]
  split
  · next x t hrest => rw [if_neg (by simp [h x (by simp [hrest])])]
  · rfl

lemma sees_eq_false {x : Char} (h : c.rest.head? ≠ some x) : c.sees x = false := by
  simpa [sees] using h

lemma atDocumentMark_eq_false (h : ScalarStyle.startsWithMark c.rest = false) :
    c.atDocumentMark = false := by
  rw [atDocumentMark, Bool.and_eq_false_iff]
  exact .inl h

end Cursor

end MeshAgent.Yaml
