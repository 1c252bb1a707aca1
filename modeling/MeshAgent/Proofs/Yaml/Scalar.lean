import MeshAgent.Proofs.Yaml.Escaped
import MeshAgent.Proofs.Yaml.Plain
import MeshAgent.Yaml.Lexer

/-!
# Scalars at the place of a value

A plain scalar and a quoted one are each one token at the place of a value, and what follows is the
next line.
-/
namespace MeshAgent.Yaml

variable {s t r rest : List Char} {x : Char} {c : Cursor} {ts : List Token} {l : Lexer}

namespace Lexer

/-- In a mapping that starts in column zero, behind the tokens `ts`. -/
def inBlock (c : Cursor) (ts : List Token) (keyAllowed : Bool) : Lexer :=
  { cursor := c, tokens := ts, indent := 0, outerIndents := [-1], keyAllowed }

lemma gapAt_one (h : c.rest = x :: r) : c.gapAt 1 = ScalarStyle.gapNext r := by
  rw [Cursor.gapAt, h]
  cases r <;> rfl

/-- Where nothing indicates structure a plain scalar starts. -/
lemma token_plain (hdepth : l.depth = 0) (h : l.cursor.rest = x :: r) (hx : isGap x = false)
    (hstart : ScalarStyle.startsWithIndicator (x :: r) = false)
    (hmark : l.cursor.column = 0 → ScalarStyle.startsWithMark (x :: r) = false) :
    l.token x = orRefused l.plain? := by
  have hline : ∀ y, ¬ ((l.cursor.column = 0 ∧ x = y) ∧ l.cursor.atDocumentMark = true) := by
    rintro y ⟨⟨hcolumn, -⟩, hat⟩
    rw [Cursor.atDocumentMark_eq_false (h ▸ hmark hcolumn)] at hat
    cases hat
  rw [ScalarStyle.startsWithIndicator, Bool.or_eq_false_iff, ← gapAt_one h] at hstart
  obtain ⟨hleading, hsign⟩ := hstart
  have hsign : x = '?' ∨ x = ':' ∨ x = '-' → l.cursor.gapAt 1 = false := by
    rintro (rfl | rfl | rfl) <;> exact hsign
  have hinside : ∀ y, y = '?' ∨ y = ':' ∨ y = '-' → ¬ (x = y ∧ l.cursor.gapAt 1 = true) := by
    rintro y hy ⟨rfl, hat⟩
    rw [hsign hy] at hat
    cases hat
  simp only [ScalarStyle.isLeadingIndicator, String.reduceToList, List.contains_eq_mem,
    List.mem_cons, List.not_mem_nil, or_false, Bool.decide_or, Bool.or_eq_false_iff,
    decide_eq_false_iff_not] at hleading
  have hplain : startsPlain false x l.cursor = true := by
    by_cases hsigned : x = '?' ∨ x = ':' ∨ x = '-'
    · have hgap := hsign hsigned
      rcases hsigned with rfl | rfl | rfl <;> simp [startsPlain, hgap]
    · rw [not_or, not_or] at hsigned
      simp [startsPlain, hx, hleading, hsigned]
  simp [token, token?, hdepth, hleading, hline, hinside, hplain]

/-- The text `t` is the token `tok` at the place of a value. It starts with `x`, and what is left of
it is the end of the line or nothing. -/
structure ReadAs (t : List Char) (tok : Token) (x : Char) : Prop where
  head : t.head? = some x
  glyph : isGlyph x = true
  hash : x ≠ '#'
  token (ts : List Token) {c : Cursor} {rest : List Char} :
    0 < c.column → StartsLine rest → c.rest = t ++ '\n' :: rest →
    ∃ ended c', (inBlock c ts false).token x = .ok (inBlock c' (ts ++ [tok]) ended) ∧
      if ended then c'.rest = rest ∧ c'.column = 0 else c'.rest = '\n' :: rest

lemma readAs_quoted (double : Bool) (hx : x = if double then '"' else '\'')
    (h : ∀ rest, rest.head? ≠ some '\'' → Quoted.Scans double (t ++ x :: rest) s rest) :
    ReadAs (x :: t ++ [x]) (.scalar (String.ofList s) false) x := by
  refine ⟨rfl, by rw [hx]; cases double <;> rfl, by rw [hx]; cases double <;> decide, ?_⟩
  intro ts c rest _ _ hc
  have hnext : c.next.rest = t ++ x :: '\n' :: rest := by
    rw [Cursor.rest_next, hc]
    simp
  obtain ⟨c', hbody, hrest⟩ := h ('\n' :: rest) (by simp) c.next (c.rest.length + 1) hnext
    (by
      rw [hc]
      simp only [List.cons_append, List.append_assoc, List.length_cons, List.length_append]
      omega)
  refine ⟨false, c', ?_, hrest⟩
  have htoken : (inBlock c ts false).token x = (inBlock c ts false).quoted double := by
    rw [hx]
    cases double <;> rfl
  rw [htoken, quoted, saveKeyStart?]
  simp [inBlock, emit, hbody, bind, Except.bind]

/-- A plain text whose start indicates nothing is read as it is laid out. -/
lemma readAs_plain (h : Laid false s t) (hs : IsPlain s)
    (hstart : ScalarStyle.startsWithIndicator s = false) :
    ∃ x, ReadAs t (.scalar (String.ofList s) true) x := by
  obtain ⟨x, s', hfirst, hx, hhash⟩ := hs.first
  have hglyph : ∀ y ∈ s.head?, isGlyph y = true := by simpa [hfirst] using hx
  have hhead : t.head? = some x := by rw [h.head? hglyph, hfirst]; rfl
  refine ⟨x, hhead, hx, hhash, ?_⟩
  intro ts c rest hcolumn hline hc
  obtain ⟨c', hwords, hrest⟩ := Plain.words_laid h hs hline hc (Nat.lt_succ_self _)
  refine ⟨true, c', ?_, hrest⟩
  obtain ⟨r, hrest'⟩ : ∃ r, c.rest = x :: r := by
    obtain ⟨t', rfl⟩ := List.head?_eq_some_iff.mp hhead
    exact ⟨_, hc⟩
  have hindicator : ScalarStyle.startsWithIndicator (x :: r) = false := by
    rw [← hrest', hc, h.startsWithIndicator hglyph, hstart]
  have hplain : (inBlock c ts false).token x = orRefused (inBlock c ts false).plain? :=
    token_plain rfl hrest' (isGap_of_isGlyph hx) hindicator fun hzero => absurd hzero hcolumn.ne'
  rw [hplain, plain?, saveKeyStart?]
  simp [inBlock, emit, hwords]

end Lexer

end MeshAgent.Yaml
