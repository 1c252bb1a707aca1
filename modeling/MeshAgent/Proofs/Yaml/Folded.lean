import Mathlib.Data.List.Infix
import MeshAgent.Proofs.Yaml.Cursor

/-!
# Words and gaps

A text without escapes is a row of words with gaps between them. Writing keeps the words and changes
only the gaps: a space may become the end of a line, and line ends are written once more than there
are.
-/
namespace MeshAgent.Yaml

/-- What stands between two words: `n + 1` spaces in a line, a space at which the line is folded, or
`n + 1` line ends. -/
inductive Gap
  | spaces (n : Nat)
  | fold
  | breaks (n : Nat)

namespace Gap

def text : Gap → List Char
  | spaces n => List.replicate (n + 1) ' '
  | fold => [' ']
  | breaks n => List.replicate (n + 1) '\n'

def written : Gap → List Char
  | spaces n => List.replicate (n + 1) ' '
  | fold => '\n' :: foldIndent
  | breaks n => List.replicate (n + 2) '\n' ++ foldIndent

lemma text_eq_cons (g : Gap) : ∃ x r, g.text = x :: r ∧ isGap x = true := by
  cases g <;> exact ⟨_, _, rfl, rfl⟩

lemma written_eq_cons (g : Gap) : ∃ x r, g.written = x :: r ∧ isGap x = true := by
  cases g <;> exact ⟨_, _, rfl, rfl⟩

/-- A gap inside a line of text is made of spaces. -/
lemma spaces_of_not_mem {g : Gap} (h : '\n' ∉ g.text) :
    (∃ r, g.text = ' ' :: r) ∧ ∃ r, g.text = r ++ [' '] := by
  cases g with
  | spaces n => exact ⟨⟨_, rfl⟩, List.replicate n ' ', List.replicate_succ'⟩
  | fold => exact ⟨⟨[], rfl⟩, [], rfl⟩
  | breaks n => exact absurd List.mem_cons_self h

end Gap

/-- A word as it is written; between quotes a quote is written twice. -/
def doubled (quoted : Bool) (w : List Char) : List Char :=
  w.flatMap fun x => if quoted && x = '\'' then ['\'', '\''] else [x]

/-- A text and what it is written as, word by word. Only the first and the last word may be
empty. -/
inductive Laid (quoted : Bool) : List Char → List Char → Prop
  | word {w : List Char} (hw : ∀ x ∈ w, isGlyph x = true) : Laid quoted w (doubled quoted w)
  | gap {w s t : List Char} (g : Gap) (hw : ∀ x ∈ w, isGlyph x = true)
    (hs : ∀ x ∈ s.head?, isGlyph x = true) (h : Laid quoted s t) :
    Laid quoted (w ++ g.text ++ s) (doubled quoted w ++ g.written ++ t)

variable {quoted : Bool} {cs s t w : List Char}

section Words

lemma doubled_cons {x : Char} (h : ¬ (quoted && x = '\'')) :
    doubled quoted (x :: w) = x :: doubled quoted w := by
  rw [doubled, List.flatMap_cons, if_neg h]
  rfl

lemma doubled_quote : doubled true ('\'' :: w) = '\'' :: '\'' :: doubled true w := rfl

@[simp] lemma doubled_false (w : List Char) : doubled false w = w := by
  induction w with
  | nil => rfl
  | cons x w ih => rw [doubled_cons (by simp), ih]

lemma head?_doubled (quoted : Bool) (w : List Char) : (doubled quoted w).head? = w.head? := by
  cases w with
  | nil => rfl
  | cons x w =>
    rw [doubled, List.flatMap_cons]
    split_ifs with h
    · simp only [Bool.and_eq_true, decide_eq_true_eq] at h
      simp [h.2]
    · rfl

/-- Writing keeps the first character of a text that starts with a word. -/
lemma Laid.head? (h : Laid quoted s t) (hs : ∀ x ∈ s.head?, isGlyph x = true) :
    t.head? = s.head? := by
  cases h with
  | word hw => exact head?_doubled _ _
  | @gap w s t g hw hs' h =>
    cases w with
    | nil =>
      obtain ⟨x, r, htext, hx⟩ := g.text_eq_cons
      rw [htext] at hs
      rw [isGap_of_isGlyph (hs x rfl)] at hx
      cases hx
    | cons x w =>
      have hne : doubled quoted (x :: w) ≠ [] := by
        intro hnil
        have hhead := head?_doubled quoted (x :: w)
        rw [hnil] at hhead
        cases hhead
      rw [List.append_assoc, List.append_assoc, List.head?_append_of_ne_nil _ hne,
        head?_doubled]
      rfl

end Words

lemma gapNext_append (w : List Char) {x : Char} (hx : isGap x = true) (r : List Char) :
    ScalarStyle.gapNext (w ++ x :: r) = ScalarStyle.gapNext w := by
  cases w with
  | nil => exact hx
  | cons y w => rfl

/-- Writing adds no indicator at the start, and takes none away. -/
lemma Laid.startsWithIndicator (h : Laid false s t) (hs : ∀ x ∈ s.head?, isGlyph x = true)
    (r : List Char) :
    ScalarStyle.startsWithIndicator (t ++ '\n' :: r) = ScalarStyle.startsWithIndicator s := by
  cases h with
  | word hw =>
    cases s with
    | nil => rfl
    | cons x w =>
      simp only [doubled_false, List.cons_append, ScalarStyle.startsWithIndicator]
      rw [gapNext_append w rfl]
  | @gap w s t g hw hs' h =>
    obtain ⟨y, r₁, htext, hy⟩ := g.text_eq_cons
    obtain ⟨z, r₂, hwritten, hz⟩ := g.written_eq_cons
    cases w with
    | nil =>
      rw [htext] at hs
      rw [isGap_of_isGlyph (hs y rfl)] at hy
      cases hy
    | cons x w =>
      simp only [doubled_false, htext, hwritten, List.cons_append, List.append_assoc,
        ScalarStyle.startsWithIndicator]
      rw [gapNext_append w hy, gapNext_append w hz]

/-- Nothing that is laid out needs an escape. -/
lemma Laid.isOrdinary (h : Laid quoted s t) : ∀ x ∈ t, ScalarStyle.isOrdinary x = true := by
  have hdoubled : ∀ w : List Char, (∀ x ∈ w, isGlyph x = true) →
      ∀ x ∈ doubled quoted w, ScalarStyle.isOrdinary x = true := by
    intro w hw x hx
    obtain ⟨y, hy, hin⟩ := List.mem_flatMap.mp hx
    have hglyph : x = y → ScalarStyle.isOrdinary x = true :=
      fun heq => isOrdinary_iff.mpr (.inr (.inr (heq ▸ hw y hy)))
    split_ifs at hin with hquote
    · simp only [Bool.and_eq_true, decide_eq_true_eq] at hquote
      simp only [List.mem_cons, List.not_mem_nil, or_false, or_self] at hin
      exact hglyph (hin.trans hquote.2.symm)
    · exact hglyph (List.mem_singleton.mp hin)
  have hgap : ∀ (g : Gap), ∀ x ∈ g.written, ScalarStyle.isOrdinary x = true := by
    have hindent : ∀ x ∈ foldIndent, ScalarStyle.isOrdinary x = true := List.all_eq_true.mp rfl
    intro g x hx
    cases g with
    | spaces n => exact List.eq_of_mem_replicate hx ▸ rfl
    | fold =>
      rcases List.mem_cons.mp hx with rfl | hx
      · rfl
      · exact hindent x hx
    | breaks n =>
      rcases List.mem_append.mp hx with hx | hx
      · exact List.eq_of_mem_replicate hx ▸ rfl
      · exact hindent x hx
  induction h with
  | word hw => exact hdoubled _ hw
  | gap g hw _ _ ih =>
    intro x hx
    rcases List.mem_append.mp hx with hx | hx
    · rcases List.mem_append.mp hx with hx | hx
      · exact hdoubled _ hw x hx
      · exact hgap g x hx
    · exact ih x hx

/-! ## Writing -/

lemma follows_iff {x y : Char} :
    ScalarStyle.follows (· = x) (· = y) cs = true ↔ [x, y] <:+: cs := by
  induction cs with
  | nil => simp [ScalarStyle.follows]
  | cons a cs ih =>
    cases cs with
    | nil =>
      refine iff_of_false Bool.false_ne_true fun h => ?_
      have hle := h.length_le
      simp at hle
    | cons b cs =>
      have hprefix : [x, y] <+: a :: b :: cs ↔ a = x ∧ b = y := by
        rw [List.cons_prefix_cons, List.cons_prefix_cons, eq_comm, @eq_comm _ y]
        simp
      rw [ScalarStyle.follows, List.infix_cons_iff, Bool.or_eq_true, ih, hprefix, Bool.and_eq_true,
        decide_eq_true_eq, decide_eq_true_eq]

namespace Scalar

/-- A word is written as it is, whatever the column. -/
lemma flow_word (quoted : Bool) (hw : ∀ x ∈ w, isGlyph x = true) (column : Nat)
    (before : Option Char) (r : List Char) :
    ∃ column', flow quoted column before (w ++ r) =
      doubled quoted w ++ flow quoted column' (w.getLast?.or before) r := by
  induction w generalizing column before with
  | nil => exact ⟨column, rfl⟩
  | cons x w ih =>
    have hx := hw x List.mem_cons_self
    have hspace : x ≠ ' ' := ne_space_of_isGlyph hx
    have hbreak : x ≠ '\n' := by
      rintro rfl
      exact absurd hx (by decide)
    have hbefore : (x :: w).getLast?.or before = w.getLast?.or (some x) := by
      rw [List.getLast?_cons]
      cases w.getLast? <;> rfl
    obtain ⟨column', hflow⟩ := ih (fun y hy => hw y (List.mem_cons_of_mem _ hy))
      (if quoted && x = '\'' then column + 2 else column + 1) (some x)
    refine ⟨column', ?_⟩
    rw [List.cons_append, flow, if_neg hspace, if_neg hbreak, hbefore]
    split_ifs with hquote
    · rw [if_pos hquote] at hflow
      simp only [Bool.and_eq_true, decide_eq_true_eq] at hquote
      obtain ⟨rfl, rfl⟩ := hquote
      rw [hflow, doubled_quote]
      rfl
    · rw [if_neg hquote] at hflow
      rw [hflow, doubled_cons hquote]
      rfl

/-- Behind a space no space is folded. -/
lemma flow_spaces_behind (n column : Nat) (s : List Char) :
    flow quoted column (some ' ') (List.replicate n ' ' ++ s) =
      List.replicate n ' ' ++ flow quoted (column + n) (some ' ') s := by
  induction n generalizing column with
  | zero => rfl
  | succ n ih =>
    rw [List.replicate_succ, List.cons_append, flow, if_pos rfl, if_neg (by simp), ih,
      List.cons_append, Nat.add_assoc, Nat.add_comm 1]

lemma flow_spaces (quoted : Bool) (n column : Nat) (before : Option Char) (s : List Char) :
    ∃ (g : Gap) (column' : Nat), g.text = List.replicate (n + 1) ' ' ∧
      flow quoted column before (List.replicate (n + 1) ' ' ++ s) =
        g.written ++ flow quoted column' (some ' ') s := by
  rw [List.replicate_succ, List.cons_append, flow, if_pos rfl]
  split_ifs with hfold
  · cases n with
    | zero => exact ⟨.fold, _, rfl, rfl⟩
    | succ n => simp [List.replicate_succ] at hfold
  · refine ⟨.spaces n, column + 1 + n, rfl, ?_⟩
    rw [flow_spaces_behind]
    rfl

lemma flow_newline (column : Nat) (before : Option Char) (r : List Char) :
    flow quoted column before ('\n' :: r) =
      (if before = some '\n' then [] else ['\n']) ++ '\n' ::
        (if r.head? = some '\n' then flow quoted 0 (some '\n') r
         else foldIndent ++ flow quoted foldIndent.length (some '\n') r) := by
  rw [flow, if_neg (by decide), if_pos rfl]

lemma flow_breaks_behind (n column : Nat) (hs : s.head? ≠ some '\n') :
    flow quoted column (some '\n') (List.replicate (n + 1) '\n' ++ s) =
      List.replicate (n + 1) '\n' ++ foldIndent ++ flow quoted 2 (some '\n') s := by
  induction n generalizing column with
  | zero =>
    rw [List.replicate_one, List.singleton_append, flow_newline, if_pos rfl, if_neg hs]
    rfl
  | succ n ih =>
    rw [List.replicate_succ, List.cons_append, flow_newline, if_pos rfl,
      if_pos (by rw [List.replicate_succ, List.cons_append, List.head?_cons]), ih]
    rfl

lemma flow_breaks (n : Nat) (hs : s.head? ≠ some '\n') (column : Nat) {before : Option Char}
    (hbefore : before ≠ some '\n') :
    flow quoted column before (List.replicate (n + 1) '\n' ++ s) =
      (Gap.breaks n).written ++ flow quoted 2 (some '\n') s := by
  have hfirst : flow quoted column before (List.replicate (n + 1) '\n' ++ s) =
      '\n' :: flow quoted column (some '\n') (List.replicate (n + 1) '\n' ++ s) := by
    rw [List.replicate_succ, List.cons_append, flow_newline, flow_newline, if_neg hbefore,
      if_pos rfl]
    rfl
  rw [hfirst, flow_breaks_behind n column hs]
  rfl

end Scalar

/-- Nothing in the text needs an escape, and no space stands next to a line end. -/
structure Foldable (cs : List Char) : Prop where
  ordinary : ∀ x ∈ cs, ScalarStyle.isOrdinary x = true
  spaceBreak : ¬ [' ', '\n'] <:+: cs
  breakSpace : ¬ ['\n', ' '] <:+: cs

lemma fitsSingle_iff : ScalarStyle.fitsSingle cs = true ↔ Foldable cs := by
  rw [ScalarStyle.fitsSingle, Bool.and_eq_true, Bool.and_eq_true, List.all_eq_true,
    Bool.not_eq_true', Bool.not_eq_true', ← Bool.not_eq_true, ← Bool.not_eq_true, follows_iff,
    follows_iff]
  exact ⟨fun h => ⟨h.1.1, h.1.2, h.2⟩, fun h => ⟨⟨h.ordinary, h.spaceBreak⟩, h.breakSpace⟩⟩

lemma exists_span (p : Char → Bool) (cs : List Char) :
    ∃ w r, cs = w ++ r ∧ (∀ x ∈ w, p x = true) ∧ ∀ x ∈ r.head?, p x = false := by
  induction cs with
  | nil => exact ⟨[], [], rfl, by simp, by simp⟩
  | cons a cs ih =>
    cases ha : p a with
    | false => exact ⟨[], a :: cs, rfl, by simp, by simpa using ha⟩
    | true =>
      obtain ⟨w, r, rfl, hw, hr⟩ := ih
      exact ⟨a :: w, r, rfl, List.forall_mem_cons.mpr ⟨ha, hw⟩, hr⟩

lemma exists_run (x : Char) (cs : List Char) :
    ∃ n s, x :: cs = List.replicate (n + 1) x ++ s ∧ s.head? ≠ some x := by
  obtain ⟨w, s, rfl, hw, hs⟩ := exists_span (· = x) cs
  have hrun : w = List.replicate w.length x :=
    List.eq_replicate_iff.mpr ⟨rfl, fun y hy => of_decide_eq_true (hw y hy)⟩
  refine ⟨w.length, s, ?_, fun hx => absurd (hs x hx) (by simp)⟩
  rw [List.replicate_succ, ← hrun]
  rfl

namespace Foldable

lemma right (h : Foldable (w ++ cs)) : Foldable cs :=
  ⟨fun x hx => h.ordinary x (List.mem_append_right _ hx),
    fun hin => h.spaceBreak (hin.trans (List.suffix_append w cs).isInfix),
    fun hin => h.breakSpace (hin.trans (List.suffix_append w cs).isInfix)⟩

/-- Behind a gap the text ends or goes on with a word. -/
lemma isGlyph_behind {n : Nat} {x : Char} (h : Foldable (List.replicate (n + 1) x ++ s))
    (hx : x = ' ' ∨ x = '\n') (hs : s.head? ≠ some x) : ∀ y ∈ s.head?, isGlyph y = true := by
  intro y hy
  obtain ⟨r, rfl⟩ := List.head?_eq_some_iff.mp hy
  have hpair : [x, y] <:+: List.replicate (n + 1) x ++ y :: r :=
    ⟨List.replicate n x, r, by rw [List.replicate_succ']; simp⟩
  rcases isOrdinary_iff.mp (h.ordinary y (by simp)) with rfl | rfl | hglyph
  · rcases hx with rfl | rfl
    · exact absurd hpair h.spaceBreak
    · exact absurd rfl hs
  · rcases hx with rfl | rfl
    · exact absurd rfl hs
    · exact absurd hpair h.breakSpace
  · exact hglyph

end Foldable

/-- Writing lays a text out word by word. Behind a line end it must not go on with another one, since
the first line end of a gap is written twice. -/
theorem Laid.flow (h : Foldable cs) (column : Nat) (before : Option Char)
    (hbefore : before = some '\n' → cs.head? ≠ some '\n') :
    Laid quoted cs (Scalar.flow quoted column before cs) := by
  induction hlen : cs.length using Nat.strong_induction_on generalizing cs column before with
  | _ k ih =>
  obtain ⟨w, r, rfl, hw, hr⟩ := exists_span isGlyph cs
  obtain ⟨column₁, hflow⟩ := Scalar.flow_word quoted hw column before r
  rw [hflow]
  cases r with
  | nil =>
    rw [Scalar.flow, List.append_nil, List.append_nil]
    exact .word hw
  | cons x r =>
    have hx : x = '\n' ∨ x = ' ' := by
      rcases isOrdinary_iff.mp (h.ordinary x (by simp)) with rfl | rfl | hx
      · exact .inl rfl
      · exact .inr rfl
      · rw [hr x rfl] at hx
        cases hx
    obtain ⟨n, s, hrun, hs⟩ := exists_run x r
    rw [hrun] at h ⊢
    have hshort : s.length < k := by
      rw [← hlen, hrun]
      simp
      omega
    have hglyph := h.right.isGlyph_behind hx.symm hs
    have hrest : ∀ column', Laid quoted s (Scalar.flow quoted column' (some x) s) :=
      fun column' => ih _ hshort h.right.right column' (some x)
        (fun heq => Option.some.inj heq ▸ hs) rfl
    rw [← List.append_assoc]
    rcases hx with rfl | rfl
    · have hbehind : w.getLast?.or before ≠ some '\n' := by
        cases hlast : w.getLast? with
        | none =>
          obtain rfl := List.getLast?_eq_none_iff.mp hlast
          exact fun heq => hbefore heq rfl
        | some y =>
          have hy := hw y (List.mem_of_getLast? hlast)
          rintro heq
          obtain rfl := Option.some.inj heq
          exact absurd hy (by decide)
      rw [Scalar.flow_breaks n hs column₁ hbehind, ← List.append_assoc]
      exact .gap (.breaks n) hw hglyph (hrest 2)
    · obtain ⟨g, column₂, htext, hgap⟩ := Scalar.flow_spaces quoted n column₁
        (w.getLast?.or before) s
      rw [hgap, ← htext, ← List.append_assoc]
      exact .gap g hw hglyph (hrest column₂)

lemma Laid.flow_start (h : Foldable cs) (column : Nat) :
    Laid quoted cs (Scalar.flow quoted column none cs) := Laid.flow h column none nofun

end MeshAgent.Yaml
