import MeshAgent.Proofs.Yaml.Folded
import MeshAgent.Yaml.ScalarText

/-!
# Plain scalars that were written

A plain scalar is read word by word. What makes a text fit to be written plain is just what keeps
its words together: no word starts a comment, and none ends with the colon of a key.
-/
namespace MeshAgent.Yaml

variable {cs s t w r rest : List Char} {x : Char}

/-! ## Texts that fit -/

/-- A text that can be told apart from what stands around it without quotes. -/
structure IsPlain (cs : List Char) : Prop where
  visible : ∀ x ∈ cs, x = ' ' ∨ isGlyph x = true
  first : ∃ x r, cs = x :: r ∧ isGlyph x = true ∧ x ≠ '#'
  last : ∃ r x, cs = r ++ [x] ∧ isGlyph x = true ∧ x ≠ ':'
  colon : ¬ [':', ' '] <:+: cs
  hash : ¬ [' ', '#'] <:+: cs

/-- A word of such a text. -/
structure IsWord (w : List Char) : Prop where
  ne_nil : w ≠ []
  glyph : ∀ x ∈ w, isGlyph x = true
  hash : w.head? ≠ some '#'
  colon : w.getLast? ≠ some ':'

namespace IsPlain

lemma foldable (h : IsPlain cs) : Foldable cs := by
  have hbreak : '\n' ∉ cs := fun hin => by
    rcases h.visible _ hin with heq | hglyph
    · cases heq
    · exact absurd hglyph (by decide)
  exact ⟨fun x hx => isOrdinary_iff.mpr (.inr (h.visible x hx)),
    fun hin => hbreak (hin.subset (by simp)), fun hin => hbreak (hin.subset (by simp))⟩

/-- What follows a space and starts with a word is plain again. -/
lemma right (h : IsPlain (w ++ ' ' :: s)) (hs : ∀ x ∈ s.head?, isGlyph x = true) : IsPlain s := by
  have hsuffix : s <:+ w ++ ' ' :: s := ⟨w ++ [' '], by simp⟩
  obtain ⟨r, z, hlast, hz⟩ := h.last
  obtain ⟨x, s, rfl⟩ : ∃ x s', s = x :: s' := by
    cases s with
    | nil =>
      obtain ⟨-, heq⟩ := List.append_inj' hlast rfl
      obtain rfl := List.singleton_inj.mp heq
      exact absurd hz.1 (by decide)
    | cons x s => exact ⟨x, s, rfl⟩
  refine ⟨fun y hy => h.visible y (hsuffix.subset hy), ⟨x, s, rfl, hs x rfl, ?_⟩, ?_,
    fun hin => h.colon (hin.trans hsuffix.isInfix), fun hin => h.hash (hin.trans hsuffix.isInfix)⟩
  · rintro rfl
    exact h.hash ⟨w, s, by simp⟩
  · have hend : (x :: s).getLast? = some z := by
      have hall : (w ++ ' ' :: x :: s).getLast? = some z := by rw [hlast, List.getLast?_concat]
      simpa [List.getLast?_append, List.getLast?_cons] using hall
    obtain ⟨r', hr'⟩ := List.getLast?_eq_some_iff.mp hend
    exact ⟨r', z, hr', hz⟩

lemma isWord (h : IsPlain w) (hw : ∀ x ∈ w, isGlyph x = true) : IsWord w := by
  obtain ⟨x, r, rfl, -, hx⟩ := h.first
  obtain ⟨r', y, hend, -, hy⟩ := h.last
  refine ⟨by simp, hw, by simpa using hx, ?_⟩
  rw [hend, List.getLast?_concat]
  simpa using hy

/-- A plain text is cut at a gap into a word and a plain text. -/
lemma cut {g : Gap} (h : IsPlain (w ++ g.text ++ s)) (hw : ∀ x ∈ w, isGlyph x = true)
    (hs : ∀ x ∈ s.head?, isGlyph x = true) : '\n' ∉ g.text ∧ IsWord w ∧ IsPlain s := by
  have hg : '\n' ∉ g.text := fun hin => absurd (h.visible '\n' (by simp [hin])) (by decide)
  obtain ⟨⟨gap, hgap⟩, gap', hgap'⟩ := g.spaces_of_not_mem hg
  obtain ⟨y, r, hfirst, hy, hyhash⟩ := h.first
  have hne : w ≠ [] := by
    rintro rfl
    rw [hgap] at hfirst
    obtain rfl := (List.cons.inj hfirst).1
    exact absurd hy (by decide)
  refine ⟨hg, ⟨hne, hw, fun heq => ?_, fun heq => ?_⟩, ?_⟩
  · have hhead := congrArg List.head? hfirst
    rw [List.append_assoc, List.head?_append_of_ne_nil _ hne, heq] at hhead
    exact hyhash (Option.some.inj hhead).symm
  · obtain ⟨w', rfl⟩ := List.getLast?_eq_some_iff.mp heq
    exact h.colon ⟨w', gap ++ s, by simp [hgap]⟩
  · rw [hgap', ← List.append_assoc, List.append_assoc, List.singleton_append] at h
    exact h.right hs

end IsPlain

lemma holdsIndicator_append (w : List Char) (h : ScalarStyle.holdsIndicator cs = true) :
    ScalarStyle.holdsIndicator (w ++ cs) = true := by
  induction w with
  | nil => exact h
  | cons x w ih =>
    rw [List.cons_append, ScalarStyle.holdsIndicator.eq_def]
    simp only [ih, Bool.or_true]

/-- A colon before a gap is an indicator wherever it stands. -/
lemma indicator_of_colon (hgap : ScalarStyle.gapNext r = true) :
    ScalarStyle.startsWithIndicator (w ++ ':' :: r) = true ∨
      ScalarStyle.holdsIndicator (w ++ ':' :: r) = true := by
  rcases List.eq_nil_or_concat w with rfl | ⟨w, y, rfl⟩
  · left
    simp [ScalarStyle.startsWithIndicator, hgap]
  · right
    rw [List.concat_eq_append, List.append_assoc, List.singleton_append]
    refine holdsIndicator_append w ?_
    simp [ScalarStyle.holdsIndicator, hgap]

lemma isPlain_of_fitsPlain (h : ScalarStyle.fitsPlain cs = true) : IsPlain cs := by
  simp only [ScalarStyle.fitsPlain, Bool.and_eq_true, Bool.not_eq_true', List.all_eq_true,
    decide_eq_true_eq, decide_eq_false_iff_not] at h
  obtain ⟨⟨⟨⟨⟨⟨⟨hord, hbreak⟩, hfirst⟩, hlast⟩, hmark⟩, hstart⟩, hheld⟩, htag⟩ := h
  have hvisible : ∀ x ∈ cs, x = ' ' ∨ isGlyph x = true := fun x hx =>
    (isOrdinary_iff.mp (hord x hx)).resolve_left fun heq => by simp [heq ▸ hx] at hbreak
  have hcolon : ∀ w r, cs = w ++ ':' :: r → ScalarStyle.gapNext r = false := by
    rintro w r rfl
    rw [← Bool.not_eq_true]
    intro hgap
    rcases indicator_of_colon (w := w) hgap with h | h
    · rw [hstart] at h
      cases h
    · rw [hheld] at h
      cases h
  refine ⟨hvisible, ?_, ?_, ?_, ?_⟩
  · cases cs with
    | nil => exact absurd htag (by decide)
    | cons x r =>
      have hglyph := (hvisible x List.mem_cons_self).resolve_left fun heq =>
        hfirst (by rw [heq]; rfl)
      refine ⟨x, r, rfl, hglyph, ?_⟩
      rintro rfl
      cases hstart
  · rcases List.eq_nil_or_concat cs with rfl | ⟨r, x, rfl⟩
    · exact absurd htag (by decide)
    · have hglyph := (hvisible x (by simp)).resolve_left fun heq => hlast (by simp [heq])
      refine ⟨r, x, List.concat_eq_append, hglyph, ?_⟩
      rintro rfl
      cases hcolon r [] List.concat_eq_append
  · rintro ⟨w, r, rfl⟩
    cases hcolon w (' ' :: r) (by simp)
  · rintro ⟨w, r, rfl⟩
    have hhash : ScalarStyle.holdsIndicator (w ++ ' ' :: '#' :: r) = true :=
      holdsIndicator_append w rfl
    simp only [List.append_assoc, List.cons_append, List.nil_append] at hheld
    rw [hheld] at hhash
    cases hhash

/-! ## Reading -/

/-- The next line is missing, or it goes on with a word that is neither a comment nor a mark between
documents. -/
structure StartsLine (rest : List Char) : Prop where
  glyph : ∀ x ∈ rest.head?, isGlyph x = true ∧ x ≠ '#'
  mark : ScalarStyle.startsWithMark rest = false

namespace Plain

lemma wordLength_gap (h : isGap x = true) : wordLength false (x :: r) = 0 := by
  rw [wordLength.eq_def]
  exact if_pos h

lemma wordLength_cons (hx : isGlyph x = true)
    (hcolon : x = ':' → ∃ y s, r = y :: s ∧ isGap y = false) :
    wordLength false (x :: r) = wordLength false r + 1 := by
  rw [wordLength.eq_def]
  by_cases h : x = ':'
  · obtain ⟨y, s, rfl, hy⟩ := hcolon h
    simp [isGap_of_isGlyph hx, hy]
  · simp [isGap_of_isGlyph hx, h]

/-- A word is read to its end, if it does not end with a colon. -/
lemma wordLength_word (hw : ∀ x ∈ w, isGlyph x = true) (hlast : w.getLast? ≠ some ':')
    (hr : wordLength false r = 0) : wordLength false (w ++ r) = w.length := by
  induction w with
  | nil => exact hr
  | cons x w ih =>
    rw [List.forall_mem_cons] at hw
    have hrest : w.getLast? ≠ some ':' := by
      intro heq
      rw [List.getLast?_cons, heq] at hlast
      exact hlast rfl
    rw [List.cons_append, wordLength_cons hw.1, ih hw.2 hrest, List.length_cons]
    rintro rfl
    cases w with
    | nil => exact absurd rfl hlast
    | cons y w => exact ⟨y, w ++ r, rfl, isGap_of_isGlyph (hw.2 y List.mem_cons_self)⟩

variable {c : Cursor}

lemma spaces_of_glyph (h : ∀ x ∈ c.rest.head?, isGlyph x = true) : spaces c = ([], false, c) := by
  have hspan : c.span (· = ' ') = ([], c) :=
    Cursor.span_eq (s := []) (t := c.rest) rfl (by simp) fun x hx => by
      simpa using ne_space_of_isGlyph (h x hx)
  rw [spaces, hspan]
  simp only
  rw [Cursor.lineBreak?_eq_none fun x hx => isBreak_of_isGlyph (h x hx)]

/-- A gap that is no end of a line. -/
lemma spaces_blank {n : Nat} (h : c.rest = List.replicate (n + 1) ' ' ++ t)
    (ht : ∀ x ∈ t.head?, isGlyph x = true) :
    ∃ c', spaces c = (List.replicate (n + 1) ' ', false, c') ∧ c'.rest = t ∧ 0 < c'.column := by
  have hspaces : ∀ x ∈ List.replicate (n + 1) ' ', x = ' ' := fun x => List.eq_of_mem_replicate
  have hspan := Cursor.span_eq (p := (· = ' ')) h (fun x hx => by simpa using hspaces x hx)
    fun x hx => by simpa using ne_space_of_isGlyph (ht x hx)
  have hskip := Cursor.skip_visible h fun x hx => .inl (hspaces x hx)
  refine ⟨_, ?_, Cursor.rest_skip_length h, ?_⟩
  · rw [spaces, hspan]
    simp only
    rw [Cursor.lineBreak?_eq_none]
    rw [Cursor.rest_skip_length h]
    exact fun x hx => isBreak_of_isGlyph (ht x hx)
  · rw [hskip, List.length_replicate]
    exact Nat.succ_pos _

lemma breaks?_blanks {blanks : List Char} (h : c.rest = blanks ++ t)
    (hblanks : ∀ x ∈ blanks, x = ' ') (ht : ∀ x ∈ t.head?, isGlyph x = true) {fuel : Nat}
    (hfuel : blanks.length < fuel) :
    breaks? fuel c = (some [], c.skip blanks.length) := by
  obtain ⟨fuel, rfl⟩ : ∃ k, fuel = k + 1 := ⟨fuel - 1, by omega⟩
  induction blanks generalizing c fuel with
  | nil =>
    rw [List.nil_append] at h
    have hspace : c.sees ' ' = false :=
      Cursor.sees_eq_false fun heq => absurd (ht ' ' (h ▸ heq)) (by decide)
    rw [breaks?, hspace, if_neg Bool.false_ne_true,
      Cursor.lineBreak?_eq_none fun x hx => isBreak_of_isGlyph (ht x (h ▸ hx))]
    rfl
  | cons x blanks ih =>
    obtain rfl := hblanks x List.mem_cons_self
    obtain ⟨fuel, rfl⟩ : ∃ k, fuel = k + 1 := ⟨fuel - 1, by rw [List.length_cons] at hfuel; omega⟩
    have hspace : c.sees ' ' = true := by rw [Cursor.sees, h]; rfl
    rw [breaks?, if_pos hspace, ih (by rw [Cursor.rest_next, h]; rfl)
      (fun y hy => hblanks y (List.mem_cons_of_mem _ hy)) fuel (by simpa using hfuel)]
    rfl

/-- The end of a line counts as a space, whether the line is folded or the last one. -/
lemma spaces_newline (blanks : List Char) (h : c.rest = '\n' :: blanks ++ t)
    (hblanks : ∀ x ∈ blanks, x = ' ') (ht : ∀ x ∈ t.head?, isGlyph x = true)
    (hmark : ScalarStyle.startsWithMark (blanks ++ t) = false) :
    ∃ c', spaces c = ([' '], true, c') ∧ c'.rest = t ∧ c'.column = blanks.length := by
  have hspan : c.span (· = ' ') = ([], c) :=
    Cursor.span_eq (s := []) (t := c.rest) rfl (by simp) fun x hx => by
      rw [h] at hx
      obtain rfl := Option.some.inj hx
      rfl
  have hnext := Cursor.next_newline (t := blanks ++ t) h
  have hrest : c.next.rest = blanks ++ t := by rw [hnext]
  refine ⟨c.next.skip blanks.length, ?_, Cursor.rest_skip_length hrest, ?_⟩
  · rw [spaces, hspan]
    simp only
    rw [Cursor.lineBreak?_newline h]
    simp only
    rw [Cursor.atDocumentMark_eq_false (by rw [hrest]; exact hmark),
      breaks?_blanks hrest hblanks ht]
    · rfl
    · rw [hrest, List.length_append]
      omega
  · rw [Cursor.skip_visible hrest fun x hx => .inl (hblanks x hx), hnext]
    exact Nat.zero_add _

/-- A gap inside a line of text is read as the spaces that it stands for. -/
lemma spaces_gap {g : Gap} (hg : '\n' ∉ g.text) (h : c.rest = g.written ++ t)
    (ht : ∀ x ∈ t.head?, isGlyph x = true) :
    ∃ ended c', spaces c = (g.text, ended, c') ∧ c'.rest = t ∧ 0 < c'.column := by
  cases g with
  | spaces n =>
    obtain ⟨c', hspaces⟩ := spaces_blank h ht
    exact ⟨false, c', hspaces⟩
  | fold =>
    obtain ⟨c', hspaces, hrest, hcolumn⟩ := spaces_newline foldIndent h
      (by simp [foldIndent]) ht rfl
    exact ⟨true, c', hspaces, hrest, hcolumn ▸ Nat.two_pos⟩
  | breaks n => exact absurd (by simp [Gap.text]) hg

/-- A word is read together with what separates it from the next one. -/
lemma words_word (hw : IsWord w) (hr : wordLength false r = 0) (h : c.rest = w ++ r) (indent : Int)
    (fuel : Nat) :
    words false indent (fuel + 1) c =
      let (sep, ended, c') := spaces (c.skip w.length)
      if sep.isEmpty || c'.sees '#' || (c'.column : Int) < indent then (w, ended, c')
      else
        let (more, ended', c') := words false indent fuel c'
        if more.isEmpty then (w, ended, c') else (w ++ sep ++ more, ended', c') := by
  have hlength : w.length ≠ 0 := mt List.length_eq_zero_iff.mp hw.ne_nil
  have hsees : c.sees '#' = false :=
    Cursor.sees_eq_false (by rw [h, List.head?_append_of_ne_nil _ hw.ne_nil]; exact hw.hash)
  rw [words, hsees, h, wordLength_word hw.glyph hw.colon hr]
  simp only [Bool.false_eq_true, if_false, hlength, List.take_left, Bool.not_false, Bool.true_and]

/-- Reading a plain scalar gives its text back, on whatever lines its words stand, and goes on at the
next line. -/
theorem words_laid (hst : Laid false s t) (hs : IsPlain s) (hrest : StartsLine rest)
    (h : c.rest = t ++ '\n' :: rest) {fuel : Nat} (hfuel : c.rest.length < fuel) :
    ∃ c', words false 1 fuel c = (s, true, c') ∧ c'.rest = rest ∧ c'.column = 0 := by
  induction hst generalizing c fuel with
  | @word w hw =>
    obtain ⟨fuel, rfl⟩ : ∃ k, fuel = k + 1 := ⟨fuel - 1, by omega⟩
    rw [doubled_false] at h
    obtain ⟨c', hspaces, hc', hcolumn⟩ := spaces_newline [] (Cursor.rest_skip_length h)
      (by simp) (fun x hx => (hrest.glyph x hx).1) hrest.mark
    refine ⟨c', ?_, hc', hcolumn⟩
    rw [words_word (hs.isWord hw) (wordLength_gap rfl) h, hspaces]
    simp [hcolumn]
  | @gap w s t g hw hglyph hst ih =>
    obtain ⟨fuel, rfl⟩ : ∃ k, fuel = k + 1 := ⟨fuel - 1, by omega⟩
    rw [doubled_false, List.append_assoc, List.append_assoc, ← List.append_assoc g.written] at h
    obtain ⟨hg, hword, hplain⟩ := hs.cut hw hglyph
    obtain ⟨x, s, rfl, hx, hhash⟩ := hplain.first
    have hhead : (t ++ '\n' :: rest).head? = some x := by
      have ht : t.head? = some x := hst.head? hglyph
      rw [List.head?_append, ht]
      rfl
    have hlength : wordLength false ((g.written ++ t) ++ '\n' :: rest) = 0 := by
      obtain ⟨y, r, hwritten, hy⟩ := g.written_eq_cons
      rw [hwritten]
      exact wordLength_gap hy
    obtain ⟨ended, c₁, hspaces, hrest₁, hcolumn⟩ := spaces_gap hg (t := t ++ '\n' :: rest)
      (by rw [Cursor.rest_skip_length h, List.append_assoc]) (by simp [hhead, hx])
    have hfuel₁ : c₁.rest.length < fuel := by
      have hpos := List.length_pos_iff.mpr hword.ne_nil
      rw [hrest₁]
      rw [h] at hfuel
      simp only [List.length_append, List.length_cons] at hfuel ⊢
      omega
    obtain ⟨c', hwords, hc'⟩ := ih hplain hrest₁ hfuel₁
    refine ⟨c', ?_, hc'⟩
    have hsees : c₁.sees '#' = false :=
      Cursor.sees_eq_false (by rw [hrest₁, hhead]; simpa using hhash)
    have hempty : g.text.isEmpty = false := by
      obtain ⟨y, r, htext, -⟩ := g.text_eq_cons
      rw [htext]
      rfl
    have hindent : ¬ (c₁.column : Int) < 1 := by omega
    rw [words_word hword hlength h, hspaces]
    simp [hsees, hempty, hindent, hwords]

/-- A name before a colon is a word that nothing separates from what follows. -/
lemma words_name (hw : IsWord w) (h : c.rest = w ++ ':' :: ' ' :: r) (indent : Int) (fuel : Nat) :
    words false indent (fuel + 1) c = (w, false, c.skip w.length) := by
  have hr : wordLength false (':' :: ' ' :: r) = 0 := rfl
  have hspaces : spaces (c.skip w.length) = ([], false, c.skip w.length) :=
    spaces_of_glyph (by rw [Cursor.rest_skip_length h]; simp; decide)
  rw [words_word hw hr h, hspaces]
  rfl

end Plain

end MeshAgent.Yaml
