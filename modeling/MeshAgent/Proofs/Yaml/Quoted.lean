import MeshAgent.Proofs.Text.Written
import MeshAgent.Proofs.Yaml.Folded
import MeshAgent.Yaml.ScalarText

/-!
# Quoted scalars that were written

Between quotes everything is read back: characters as they are or by their escapes, gaps as what
they stand for. The end of a line is a gap of its own in single quotes; in double quotes it is escaped
and says nothing.
-/
namespace MeshAgent.Yaml.Quoted

variable {double : Bool} {s t u x rest w : List Char} {c : Cursor} {y : Char}

/-- Wherever the text `t` stands, it is read as `s` up to the closing quote, and `rest` is left. -/
def Scans (double : Bool) (t s rest : List Char) : Prop :=
  ∀ (c : Cursor) (fuel : Nat), c.rest = t → t.length < fuel →
    ∃ c', body double fuel c = .ok (s, c') ∧ c'.rest = rest

/-- A part `u` that is read as `x` in one step goes in front of what is read behind it. -/
lemma Scans.prepend (hu : u ≠ []) (h : Scans double t s rest)
    (hstep : ∀ (c : Cursor) (fuel : Nat) (c' : Cursor), c.rest = u ++ t →
      body double fuel (c.skip u.length) = .ok (s, c') →
      body double (fuel + 1) c = .ok (x ++ s, c')) :
    Scans double (u ++ t) (x ++ s) rest := by
  intro c fuel hc hfuel
  obtain ⟨fuel, rfl⟩ : ∃ k, fuel = k + 1 := ⟨fuel - 1, by omega⟩
  have hpos := List.length_pos_iff.mpr hu
  rw [List.length_append] at hfuel
  obtain ⟨c', hbody, hrest⟩ := h (c.skip u.length) fuel (Cursor.rest_skip_length hc) (by omega)
  exact ⟨c', hstep c fuel c' hc hbody, hrest⟩

lemma scans_close_single (h : rest.head? ≠ some '\'') : Scans false ('\'' :: rest) [] rest := by
  intro c fuel hc hfuel
  obtain ⟨fuel, rfl⟩ : ∃ k, fuel = k + 1 := ⟨fuel - 1, by omega⟩
  refine ⟨c.next, ?_, by rw [Cursor.rest_next, hc]; rfl⟩
  rw [body, hc]
  simp only [Bool.not_false, decide_true, Bool.and_self, if_true]
  split
  · exact absurd rfl h
  · rfl

lemma scans_close_double : Scans true ('"' :: rest) [] rest := by
  intro c fuel hc hfuel
  obtain ⟨fuel, rfl⟩ : ∃ k, fuel = k + 1 := ⟨fuel - 1, by omega⟩
  refine ⟨c.next, ?_, by rw [Cursor.rest_next, hc]; rfl⟩
  rw [body, hc]
  rfl

namespace Scans

/-- A glyph without a meaning stands for itself. -/
lemma glyph (h : Scans double t s rest) (hy : isGlyph y = true)
    (hsingle : double = false → y ≠ '\'') (hdouble : double = true → y ≠ '"' ∧ y ≠ '\\') :
    Scans double (y :: t) (y :: s) rest := by
  refine Scans.prepend (u := [y]) (x := [y]) (by simp) h fun c fuel c' hc hbody => ?_
  have hquote : (!double && y = '\'') = false := by
    cases double with
    | false => simpa using hsingle rfl
    | true => rfl
  have hend : (double && y = '"') = false := by
    cases double with
    | false => rfl
    | true => simpa using (hdouble rfl).1
  have hescape : (double && y = '\\') = false := by
    cases double with
    | false => rfl
    | true => simpa using (hdouble rfl).2
  rw [List.length_singleton, Cursor.skip_one] at hbody
  rw [body, hc]
  simp only [List.singleton_append, hquote, hend, hescape, isGap_of_isGlyph hy, Bool.false_eq_true,
    if_false, hbody]
  rfl

lemma quote (h : Scans false t s rest) : Scans false ('\'' :: '\'' :: t) ('\'' :: s) rest := by
  refine Scans.prepend (u := ['\'', '\'']) (x := ['\'']) (by simp) h fun c fuel c' hc hbody => ?_
  have hbody : body false fuel (c.skip 2) = .ok (s, c') := hbody
  rw [body, hc]
  simp only [List.cons_append, List.nil_append, Bool.not_false, decide_true, Bool.and_self, if_true,
    hbody]
  rfl

end Scans

/-! ## Gaps -/

/-- Behind spaces the line goes on. -/
def EndsInline (t : List Char) : Prop :=
  ∀ x ∈ (t.dropWhile fun x => x = ' ' || x = '\t').head?, isBreak x = false

lemma endsInline_of_glyph (h : ∀ x ∈ t.head?, isGlyph x = true) : EndsInline t := by
  cases t with
  | nil => simp [EndsInline]
  | cons x t =>
    have hx := h x rfl
    have hgap := isGap_of_isGlyph hx
    simp only [isGap, Bool.or_eq_false_iff] at hgap
    simp [EndsInline, hgap]

lemma endsInline_space : EndsInline (' ' :: t) ↔ EndsInline t := by simp [EndsInline]

/-- A gap neither closes a scalar nor starts an escape. -/
lemma quoteless_of_isGap (double : Bool) (hy : isGap y = true) :
    (!double && y = '\'') = false ∧ (double && y = '"') = false ∧ (double && y = '\\') = false := by
  have hother : ∀ z, isGap z = false → y ≠ z := by
    rintro z hz rfl
    rw [hy] at hz
    cases hz
  simp [hother '\'' rfl, hother '"' rfl, hother '\\' rfl]

/-- Spaces inside a line are read all at once. -/
lemma body_blank (hy : y = ' ' ∨ y = '\t') (hc : c.rest = y :: t) (ht : EndsInline t)
    (fuel : Nat) :
    body double (fuel + 1) c =
      (body double fuel (c.span fun x => x = ' ' || x = '\t').2).map fun p =>
        ((c.span fun x => x = ' ' || x = '\t').1 ++ p.1, p.2) := by
  have hbreak : (c.span fun x => x = ' ' || x = '\t').2.lineBreak? = none := by
    refine Cursor.lineBreak?_eq_none ?_
    rw [Cursor.rest_span, hc]
    rcases hy with rfl | rfl <;> simpa [EndsInline] using ht
  have hgap : isGap y = true := by rcases hy with rfl | rfl <;> rfl
  rw [body, hc]
  simp only [quoteless_of_isGap double hgap, hgap, Bool.false_eq_true, if_false, if_true, hbreak]
  cases body double fuel (c.span fun x => x = ' ' || x = '\t').2 <;> rfl

namespace Scans

lemma blank (h : Scans double t s rest) (ht : EndsInline t) :
    Scans double (' ' :: t) (' ' :: s) rest := by
  intro c fuel hc hfuel
  obtain ⟨fuel, rfl⟩ : ∃ k, fuel = k + 1 := ⟨fuel - 1, by omega⟩
  have hnext : c.next.rest = t := by rw [Cursor.rest_next, hc]; rfl
  rw [List.length_cons] at hfuel
  rw [body_blank (.inl rfl) hc ht]
  have hspan : c.span (fun x => x = ' ' || x = '\t') =
      (' ' :: (c.next.span fun x => x = ' ' || x = '\t').1,
        (c.next.span fun x => x = ' ' || x = '\t').2) := by
    simp only [Cursor.span, hc, hnext]
    rfl
  rw [hspan]
  by_cases hblank : ∃ y r, t = y :: r ∧ (y = ' ' ∨ y = '\t')
  · -- the spaces behind are read in the same step, now as then
    obtain ⟨y, r, rfl, hy⟩ := hblank
    obtain ⟨c', hbody, hrest⟩ := h c.next (fuel + 1) hnext (by omega)
    have htail : EndsInline r := by
      rcases hy with rfl | rfl <;> simpa [EndsInline] using ht
    rw [body_blank hy hnext htail] at hbody
    cases hbehind : body double fuel (c.next.span fun x => x = ' ' || x = '\t').2 with
    | error p =>
      rw [hbehind] at hbody
      cases hbody
    | ok read =>
      rw [hbehind] at hbody
      obtain ⟨rfl, rfl⟩ := Prod.mk.inj (Except.ok.inj hbody)
      exact ⟨_, rfl, hrest⟩
  · have hnone : c.next.span (fun x => x = ' ' || x = '\t') = ([], c.next) := by
      refine Cursor.span_eq (s := []) (t := t) hnext (by simp) fun y hy => ?_
      obtain ⟨r, rfl⟩ := List.head?_eq_some_iff.mp hy
      simpa using fun hblank' => hblank ⟨y, r, rfl, hblank'⟩
    obtain ⟨c', hbody, hrest⟩ := h c.next fuel hnext (by omega)
    rw [hnone]
    exact ⟨c', by rw [hbody]; rfl, hrest⟩

end Scans

/-- Line ends are collected up to the indentation of the next line. -/
lemma breaks?_written {n : Nat} (h : c.rest = List.replicate n '\n' ++ foldIndent ++ t)
    (ht : ∀ x ∈ t.head?, isGlyph x = true) {fuel : Nat} (hfuel : n < fuel) :
    breaks? fuel c = some (List.replicate n '\n', c.skip (n + 2)) := by
  obtain ⟨fuel, rfl⟩ : ∃ k, fuel = k + 1 := ⟨fuel - 1, by omega⟩
  induction n generalizing c fuel with
  | zero =>
    have hmark : c.atDocumentMark = false := Cursor.atDocumentMark_eq_false (by rw [h]; rfl)
    have hskip : c.skipWhile (fun x => x = ' ' || x = '\t') = c.skip 2 :=
      Cursor.skipWhile_eq (s := foldIndent) (t := t) h (List.all_eq_true.mp rfl) fun x hx => by
        have hgap := isGap_of_isGlyph (ht x hx)
        simp only [isGap, Bool.or_eq_false_iff] at hgap
        simp [hgap]
    have hrest : (c.skip 2).rest = t := Cursor.rest_skip_length (s := foldIndent) h
    rw [breaks?, hmark, if_neg Bool.false_ne_true, hskip]
    simp only
    rw [Cursor.lineBreak?_eq_none fun x hx => isBreak_of_isGlyph (ht x (hrest ▸ hx))]
    rfl
  | succ n ih =>
    obtain ⟨fuel, rfl⟩ : ∃ k, fuel = k + 1 := ⟨fuel - 1, by omega⟩
    have hc : c.rest = '\n' :: (List.replicate n '\n' ++ foldIndent ++ t) := h
    have hmark : c.atDocumentMark = false := Cursor.atDocumentMark_eq_false (by rw [hc]; rfl)
    have hskip : c.skipWhile (fun x => x = ' ' || x = '\t') = c :=
      Cursor.skipWhile_of_head fun x hx => by
        rw [hc] at hx
        obtain rfl := Option.some.inj hx
        rfl
    rw [breaks?, hmark, if_neg Bool.false_ne_true, hskip]
    simp only
    rw [Cursor.lineBreak?_newline hc]
    simp only
    rw [ih (by rw [Cursor.rest_next, hc]; rfl) fuel (by omega)]
    rfl

namespace Scans

/-- Line ends are read as a gap, one fewer than are written; a single one is a space. -/
lemma newlines (n : Nat) (h : Scans double t s rest) (ht : ∀ x ∈ t.head?, isGlyph x = true) :
    Scans double (List.replicate (n + 1) '\n' ++ foldIndent ++ t)
      (fold '\n' (List.replicate n '\n') ++ s) rest := by
  refine Scans.prepend (by simp) h fun c fuel c' hc hbody => ?_
  have hc : c.rest = '\n' :: (List.replicate n '\n' ++ foldIndent ++ t) := hc
  have hspan : c.span (fun x => x = ' ' || x = '\t') = ([], c) :=
    Cursor.span_eq (s := []) hc (by simp) (by simp)
  have hnext : c.next.rest = List.replicate n '\n' ++ foldIndent ++ t := by
    rw [Cursor.rest_next, hc]
    rfl
  have hlength : (List.replicate (n + 1) '\n' ++ foldIndent).length = (n + 2) + 1 := by
    simp [foldIndent]
  rw [hlength, Cursor.skip] at hbody
  have hbreaks : breaks? (c.next.rest.length + 1) c.next =
      some (List.replicate n '\n', c.next.skip (n + 2)) :=
    breaks?_written hnext ht (by
      rw [hnext, List.length_append, List.length_append, List.length_replicate]
      omega)
  have hgap : isGap '\n' = true := rfl
  rw [body, hc]
  simp only [quoteless_of_isGap double hgap, hgap, Bool.false_eq_true, if_false, if_true, hspan,
    Cursor.lineBreak?_newline hc, hbreaks]
  simp only [orRefused_some, bind, Except.bind, hbody]

/-- A gap is read as what it stands for. -/
lemma gap (g : Gap) (h : Scans false t s rest) (ht : ∀ x ∈ t.head?, isGlyph x = true) :
    Scans false (g.written ++ t) (g.text ++ s) rest := by
  cases g with
  | spaces n =>
    have hspaces : ∀ k, Scans false (List.replicate k ' ' ++ t) (List.replicate k ' ' ++ s) rest ∧
        EndsInline (List.replicate k ' ' ++ t) := by
      intro k
      induction k with
      | zero => exact ⟨h, endsInline_of_glyph ht⟩
      | succ k ih => exact ⟨ih.1.blank ih.2, endsInline_space.mpr ih.2⟩
    exact (hspaces (n + 1)).1
  | fold => exact newlines 0 h ht
  | breaks n => exact newlines (n + 1) h ht

lemma doubled (h : Scans false t s rest) (hw : ∀ x ∈ w, isGlyph x = true) :
    Scans false (doubled true w ++ t) (w ++ s) rest := by
  induction w with
  | nil => exact h
  | cons y w ih =>
    rw [List.forall_mem_cons] at hw
    by_cases hy : y = '\''
    · subst hy
      exact (ih hw.2).quote
    · rw [doubled_cons (by simpa using hy)]
      exact (ih hw.2).glyph hw.1 (fun _ => hy) nofun

end Scans

/-- A text in single quotes is read back. -/
theorem scans_laid (h : Laid true s t) (hrest : rest.head? ≠ some '\'') :
    Scans false (t ++ '\'' :: rest) s rest := by
  induction h with
  | @word w hw =>
    have hscans := (scans_close_single hrest).doubled hw
    rwa [List.append_nil] at hscans
  | @gap w s t g hw hs h ih =>
    have hglyph : ∀ x ∈ (t ++ '\'' :: rest).head?, isGlyph x = true := by
      intro x hx
      rw [List.head?_append, h.head? hs] at hx
      cases hhead : s.head? with
      | none =>
        rw [hhead] at hx
        obtain rfl := Option.some.inj hx
        rfl
      | some y =>
        rw [hhead] at hx
        obtain rfl := Option.some.inj hx
        exact hs y hhead
    rw [List.append_assoc, List.append_assoc, List.append_assoc]
    exact (ih.gap g hglyph).doubled hw

end MeshAgent.Yaml.Quoted
