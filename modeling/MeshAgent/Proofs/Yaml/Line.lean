import MeshAgent.Proofs.Yaml.Value

/-!
# Lines of a mapping

A mapping whose names stand in column zero is written entry by entry. Each entry is read as a key and
a value, and the first of them opens the block that the end of the text closes.
-/
namespace MeshAgent.Yaml

/-- A name that is a key as it stands: one word, which is neither an indicator nor a value of another
type. -/
structure IsName (name : String) : Prop where
  word : ∀ x ∈ name.toList, isWordChar x = true
  start : ∃ x r, name.toList = x :: r ∧ x ≠ '-'
  short : name.length ≤ Lexer.keyLimit
  tag : implicitTag name = Tag.text

def writeEntries (es : List (String × Value)) : List Char :=
  es.flatMap fun e => writeEntry e.1 fun column => e.2.write column

def entryTokens (e : String × Value) : List Token :=
  [.key, .scalar e.1 true, .value, e.2.token]

section Names

variable {name : String}

namespace IsName

lemma isWord (h : IsName name) : IsWord name.toList := by
  obtain ⟨x, r, hname, -⟩ := h.start
  exact ⟨by simp [hname], fun x hx => isGlyph_of_isWordChar (h.word x hx),
    fun heq => ne_of_isWordChar (h.word _ (List.mem_of_head? heq)) rfl rfl,
    fun heq => ne_of_isWordChar (h.word _ (List.mem_of_getLast? heq)) rfl rfl⟩

/-- A line that starts with a name starts with neither an indicator nor a mark between documents. -/
lemma start_append (h : IsName name) (r : List Char) :
    ∃ x s, name.toList ++ r = x :: s ∧ isGlyph x = true ∧ x ≠ '#' ∧
      ScalarStyle.startsWithIndicator (x :: s) = false ∧
      ScalarStyle.startsWithMark (x :: s) = false := by
  obtain ⟨x, s, hname, hminus⟩ := h.start
  have hword : isWordChar x = true := h.word x (by simp [hname])
  have hdot : x ≠ '.' := ne_of_isWordChar hword rfl
  refine ⟨x, s ++ r, by rw [hname]; rfl, isGlyph_of_isWordChar hword, ne_of_isWordChar hword rfl,
    startsWithIndicator_of_isWordChar hword hminus _, ?_⟩
  simp [ScalarStyle.startsWithMark, List.take_succ_cons, hdot, hminus]

end IsName

end Names

/-- Nothing comes in front of the next token. -/
def StartsToken (r : List Char) : Prop := ∀ x ∈ r.head?, isGap x = false ∧ x ≠ '#'

lemma startsToken_nil : StartsToken [] := by simp [StartsToken]

lemma startsToken_cons {x : Char} {r : List Char} (hx : isGap x = false) (hhash : x ≠ '#') :
    StartsToken (x :: r) := by simpa [StartsToken] using ⟨hx, hhash⟩

lemma StartsLine.startsToken {r : List Char} (h : StartsLine r) : StartsToken r := fun x hx =>
  ⟨isGap_of_isGlyph (h.glyph x hx).1, (h.glyph x hx).2⟩

lemma startsLine_nil : StartsLine [] := ⟨by simp, rfl⟩

lemma IsName.startsLine {name : String} (h : IsName name) (r : List Char) :
    StartsLine (name.toList ++ r) := by
  obtain ⟨x, s, heq, hx, hhash, -, hmark⟩ := h.start_append r
  rw [heq]
  exact ⟨by simpa using ⟨hx, hhash⟩, hmark⟩

lemma writeEntries_cons (e : String × Value) (es : List (String × Value)) :
    writeEntries (e :: es) =
      e.1.toList ++ ':' :: ' ' :: (e.2.write (e.1.length + 2) ++ '\n' :: writeEntries es) := by
  simp [writeEntries, writeEntry]

lemma startsLine_writeEntries {es : List (String × Value)} (h : ∀ e ∈ es, IsName e.1) :
    StartsLine (writeEntries es) := by
  cases es with
  | nil => exact startsLine_nil
  | cons e es =>
    rw [writeEntries_cons]
    exact (h e List.mem_cons_self).startsLine _

namespace Lexer

variable {l l' : Lexer} {c : Cursor} {ts : List Token} {x : Char} {r rest : List Char}

/-! ## One step -/

lemma skipGaps_stop (h : StartsToken c.rest) (fuel : Nat) (newLine : Bool) :
    skipGaps fuel c newLine = (c, newLine) := by
  cases fuel with
  | zero => rfl
  | succ fuel =>
    have hskip : c.skipWhile (· = ' ') = c :=
      Cursor.skipWhile_of_head fun x hx => by simpa using ne_space_of_isGap (h x hx).1
    have hsees : c.sees '#' = false := Cursor.sees_eq_false fun heq => (h _ heq).2 rfl
    rw [skipGaps, hskip, hsees, if_neg Bool.false_ne_true,
      Cursor.lineBreak?_eq_none fun x hx => isBreak_of_isGap (h x hx).1]

lemma skipGaps_space (hc : c.rest = ' ' :: r) (hr : StartsToken r) (fuel : Nat) :
    skipGaps (fuel + 1) c false = (c.next, false) := by
  have hrest : c.next.rest = r := by rw [Cursor.rest_next, hc, List.tail_cons]
  have hskip : c.skipWhile (· = ' ') = c.next :=
    Cursor.skipWhile_eq (s := [' ']) hc (by simp) fun x hx => by
      simpa using ne_space_of_isGap (hr x hx).1
  have hsees : c.next.sees '#' = false :=
    Cursor.sees_eq_false fun heq => (hr _ (hrest ▸ heq)).2 rfl
  rw [skipGaps, hskip, hsees, if_neg Bool.false_ne_true,
    Cursor.lineBreak?_eq_none fun x hx => isBreak_of_isGap (hr x (hrest ▸ hx)).1]

lemma skipGaps_newline (hc : c.rest = '\n' :: r) (hr : StartsToken r) (fuel : Nat) :
    skipGaps (fuel + 1) c false = (c.next, true) := by
  have hrest : c.next.rest = r := by rw [Cursor.rest_next, hc, List.tail_cons]
  have hskip : c.skipWhile (· = ' ') = c := Cursor.skipWhile_of_head (by simp [hc])
  have hsees : c.sees '#' = false := Cursor.sees_eq_false (by simp [hc])
  rw [skipGaps, hskip, hsees, if_neg Bool.false_ne_true, Cursor.lineBreak?_newline hc]
  exact skipGaps_stop (hrest ▸ hr) fuel true

/-- What comes before a token can be skipped beforehand. -/
lemma run_skip {newLine : Bool} {c' : Cursor}
    (h : skipGaps (l.cursor.rest.length + 1) l.cursor false = (c', newLine))
    (hc' : StartsToken c'.rest) (fuel : Nat) :
    run fuel l =
      run fuel { l with
        cursor := c', keyAllowed := l.keyAllowed || (newLine && l.depth = 0) } := by
  cases fuel with
  | zero => rfl
  | succ fuel =>
    rw [run, run, h, skipGaps_stop hc']
    simp

lemma unwind_of_le {column : Int} (h : l.indent ≤ column) : l.unwind column = l := by
  have hclose : closeBlocks column l.indent l.outerIndents l.tokens =
      (l.indent, l.outerIndents, l.tokens) := by
    cases l.outerIndents with
    | nil => rfl
    | cons outer outers => rw [closeBlocks, if_neg (by omega)]
  rw [unwind, hclose]
  split_ifs <;> rfl

lemma dropStale?_of_fresh (h : ∀ k ∈ l.keyStarts, l.isStale k = false) : l.dropStale? = some l := by
  have hany : (l.keyStarts.any fun k => l.isStale k && k.required) = false := by
    rw [List.any_eq_false]
    intro k hk
    simp [h k hk]
  have hfilter : (l.keyStarts.filter fun k => !l.isStale k) = l.keyStarts :=
    List.filter_eq_self.mpr fun k hk => by simp [h k hk]
  rw [dropStale?, hany, if_neg Bool.false_ne_true, hfilter]

/-- A token is read where one starts, inside the block at hand. -/
lemma run_token (h : l.cursor.rest = x :: r) (hx : isGap x = false) (hhash : x ≠ '#')
    (hfresh : ∀ k ∈ l.keyStarts, l.isStale k = false) (hindent : l.indent ≤ l.cursor.column)
    (htoken : l.token x = .ok l') (fuel : Nat) : run (fuel + 1) l = run fuel l' := by
  rw [run, skipGaps_stop (h ▸ startsToken_cons hx hhash)]
  simp only [Bool.false_and, Bool.or_false]
  rw [dropStale?_of_fresh hfresh]
  simp only
  rw [unwind_of_le hindent, h]
  simp only
  rw [htoken]

/-- The end closes the block. -/
lemma run_end (h : c.rest = []) (keyAllowed : Bool) (fuel : Nat) :
    run (fuel + 1) (inBlock c ts keyAllowed) = .ok (ts ++ [.blockEnd]) := by
  have hstart : StartsToken (inBlock c ts keyAllowed).cursor.rest := by
    rw [inBlock, h]
    exact startsToken_nil
  rw [run, skipGaps_stop hstart]
  have hcolumn : ¬ (c.column : Int) < 0 := by omega
  simp [inBlock, dropStale?, unwind, closeBlocks, dropKeyStart?, h, hcolumn]

/-! ## One entry -/

/-- At the start of a line, behind the tokens of the lines before it. -/
def atLine (c : Cursor) (ts : List Token) : Lexer :=
  if ts = [] then { cursor := c } else inBlock c (.blockMappingStart :: ts) true

/-- Behind a name in that line, whose place is kept in mind until its colon. -/
def behindName (c : Cursor) (ts : List Token) (name : String) : Lexer :=
  let l := atLine c ts
  { l with
    cursor := c.skip name.length, tokens := l.tokens ++ [.scalar name true], keyAllowed := false,
    keyStarts := [{ depth := 0, position := l.tokens.length, required := l.indent = c.column,
                    index := c.index, line := c.line, column := c.column }] }

section AtLine

@[simp] lemma cursor_atLine : (atLine c ts).cursor = c := by
  rw [atLine]
  split_ifs <;> rfl

@[simp] lemma depth_atLine : (atLine c ts).depth = 0 := by
  rw [atLine]
  split_ifs <;> rfl

@[simp] lemma keyAllowed_atLine : (atLine c ts).keyAllowed = true := by
  rw [atLine]
  split_ifs <;> rfl

@[simp] lemma keyStarts_atLine : (atLine c ts).keyStarts = [] := by
  rw [atLine]
  split_ifs <;> rfl

lemma indent_atLine_le : (atLine c ts).indent ≤ 0 := by
  rw [atLine]
  split_ifs
  · exact (by decide : (-1 : Int) ≤ 0)
  · exact Int.le_refl 0

end AtLine

section Name

variable {name : String}

lemma token_name (hname : IsName name) (h : c.rest = name.toList ++ ':' :: ' ' :: r)
    (hx : c.rest.head? = some x) : (atLine c ts).token x = .ok (behindName c ts name) := by
  obtain ⟨y, s, heq, hy, -, hindicator, hmark⟩ := hname.start_append (':' :: ' ' :: r)
  have hstart : c.rest = y :: s := h.trans heq
  obtain rfl : y = x := by simpa [hstart] using hx
  rw [token_plain depth_atLine (by rwa [cursor_atLine]) (isGap_of_isGlyph hy) hindicator
    fun _ => hmark, plain?, saveKeyStart?, if_pos keyAllowed_atLine, dropKeyStart?]
  simp [Plain.words_name hname.isWord h, emit, behindName, String.length_toList]

lemma insertIdx_length_append (ts us : List Token) (t : Token) :
    (ts ++ us).insertIdx ts.length t = ts ++ t :: us := by
  induction ts with
  | nil => rfl
  | cons _ ts ih =>
    rw [List.cons_append, List.length_cons, List.insertIdx_succ_cons, ih, List.cons_append]

/-- The colon behind a name turns it into a key; in the first line it opens the block. -/
lemma token_colon (hcolumn : c.column = 0) (h : (c.skip name.length).rest = ':' :: ' ' :: r) :
    (behindName c ts name).token ':' = .ok (inBlock (c.skip name.length).next
      (.blockMappingStart :: (ts ++ [.key, .scalar name true, .value])) false) := by
  have hgap : (c.skip name.length).gapAt 1 = true := gapAt_one h
  have hvalue : (behindName c ts name).token ':' = orRefused (behindName c ts name).value? := by
    simp [token, token?, behindName, hgap]
  rw [hvalue]
  by_cases hts : ts = []
  · subst hts
    simp [behindName, atLine, value?, insertToken, openBlock, emit, inBlock, hcolumn]
  · simp [behindName, atLine, hts, value?, insertToken, openBlock, emit, inBlock, hcolumn,
      insertIdx_length_append]

/-- A name and its colon are read as a key. -/
lemma run_key (ts : List Token) (hname : IsName name) (hcolumn : c.column = 0)
    (h : c.rest = name.toList ++ ':' :: ' ' :: r) :
    ∃ c', c'.rest = ' ' :: r ∧ ∀ fuel, run (fuel + 2) (atLine c ts) = run fuel
      (inBlock c' (.blockMappingStart :: (ts ++ [.key, .scalar name true, .value])) false) := by
  obtain ⟨x, s, hstart, hx, hhash, -⟩ := hname.start_append (':' :: ' ' :: r)
  have hskip : c.skip name.length =
      { rest := ':' :: ' ' :: r, index := c.index + name.length, line := c.line,
        column := c.column + name.length } := by
    have hvisible := Cursor.skip_visible h fun y hy =>
      .inr (isGlyph_of_isWordChar (hname.word y hy))
    rwa [String.length_toList] at hvisible
  have hfirst : (atLine c ts).cursor.rest = x :: s := by rw [cursor_atLine, h, hstart]
  have hindent : (atLine c ts).indent ≤ (0 : Nat) := indent_atLine_le
  -- the place of the name is not forgotten before the colon, since names are short
  have hfresh : ∀ k ∈ (behindName c ts name).keyStarts,
      (behindName c ts name).isStale k = false := by
    simpa [behindName, isStale, hskip] using hname.short
  refine ⟨(c.skip name.length).next, by rw [Cursor.rest_next, hskip]; rfl, fun fuel => ?_⟩
  rw [run_token hfirst (isGap_of_isGlyph hx) hhash (by simp) (by rw [cursor_atLine, hcolumn]; exact hindent)
      (token_name hname h (by rw [h, hstart]; rfl)),
    run_token (r := ' ' :: r) (by rw [behindName, hskip]) rfl (by decide) hfresh
      (Int.le_trans hindent (Int.natCast_nonneg _)) (token_colon hcolumn (by rw [hskip]))]

end Name

/-- Reading a value leaves the reader at the start of the next line. -/
lemma run_value (ts : List Token) (v : Value) (column : Nat) (hrest : StartsLine rest)
    (h : c.rest = ' ' :: (v.write column ++ '\n' :: rest)) :
    ∃ c', c'.rest = rest ∧ c'.column = 0 ∧ ∀ fuel, run (fuel + 2) (inBlock c ts false) =
      run (fuel + 1) (inBlock c' (ts ++ [v.token]) true) := by
  obtain ⟨x, hread⟩ := v.readAs column
  obtain ⟨t, ht⟩ := List.head?_eq_some_iff.mp hread.head
  have hfirst : StartsToken (v.write column ++ '\n' :: rest) := by
    rw [ht]
    exact startsToken_cons (isGap_of_isGlyph hread.glyph) hread.hash
  have hvalue : c.next.rest = v.write column ++ '\n' :: rest := by
    rw [Cursor.rest_next, h, List.tail_cons]
  have hcolumn : 0 < c.next.column := by
    have hnext := Cursor.skip_visible (s := [' ']) h (by simp)
    rw [List.length_singleton, Cursor.skip_one] at hnext
    rw [hnext]
    exact Nat.succ_pos _
  obtain ⟨ended, c', htoken, hc'⟩ := hread.token ts hcolumn hrest hvalue
  have hstep : ∀ fuel, run (fuel + 2) (inBlock c ts false) =
      run (fuel + 1) (inBlock c' (ts ++ [v.token]) ended) := by
    intro fuel
    rw [run_skip (l := inBlock c ts false) (skipGaps_space h hfirst _) (hvalue ▸ hfirst)]
    exact run_token (by rw [ht] at hvalue; exact hvalue) (isGap_of_isGlyph hread.glyph) hread.hash (by simp [inBlock])
      (by simp [inBlock]) htoken _
  -- a plain value takes the end of its line with it, a quoted one leaves it to the next token
  cases ended with
  | true =>
    simp only [if_true] at hc'
    exact ⟨c', hc'.1, hc'.2, hstep⟩
  | false =>
    simp only [Bool.false_eq_true, if_false] at hc'
    have hline := Cursor.next_newline hc'
    refine ⟨c'.next, by rw [hline], by rw [hline], fun fuel => ?_⟩
    rw [hstep, run_skip (l := inBlock c' _ false) (skipGaps_newline hc' hrest.startsToken _)
      (by rw [hline]; exact hrest.startsToken)]
    rfl

/-- Reading a line appends the tokens of its entry. -/
lemma run_entry (ts : List Token) {e : String × Value} (hname : IsName e.1)
    (hrest : StartsLine rest) (hcolumn : c.column = 0)
    (h : c.rest = e.1.toList ++ ':' :: ' ' :: (e.2.write (e.1.length + 2) ++ '\n' :: rest)) :
    ∃ c', c'.rest = rest ∧ c'.column = 0 ∧ ∀ fuel,
      run (fuel + 4) (atLine c ts) = run (fuel + 1) (atLine c' (ts ++ entryTokens e)) := by
  obtain ⟨c₁, hc₁, hkey⟩ := run_key ts hname hcolumn h
  obtain ⟨c', hc', hcolumn', hvalue⟩ := run_value
    (.blockMappingStart :: (ts ++ [.key, .scalar e.1 true, .value])) e.2 _ hrest hc₁
  refine ⟨c', hc', hcolumn', fun fuel => ?_⟩
  rw [hkey, hvalue, atLine, if_neg (by simp [entryTokens])]
  simp [entryTokens]

/-! ## All entries -/

/-- Behind the tokens `ts`, all lines that are left are read, and the block is closed. Without any
line there is no block. -/
lemma run_entries (ts : List Token) {es : List (String × Value)} (hnames : ∀ e ∈ es, IsName e.1)
    (hcolumn : c.column = 0) (h : c.rest = writeEntries es) (hne : ts ≠ [] ∨ es ≠ []) {fuel : Nat}
    (hfuel : 3 * es.length < fuel) :
    run fuel (atLine c ts) =
      .ok (.blockMappingStart :: (ts ++ es.flatMap entryTokens) ++ [.blockEnd]) := by
  induction es generalizing c ts fuel with
  | nil =>
    obtain ⟨fuel, rfl⟩ : ∃ k, fuel = k + 1 := ⟨fuel - 1, by omega⟩
    rw [atLine, if_neg (hne.resolve_right (by simp)), run_end h, List.flatMap_nil, List.append_nil]
  | cons e es ih =>
    obtain ⟨fuel, rfl⟩ : ∃ k, fuel = k + 4 := ⟨fuel - 4, by simp at hfuel; omega⟩
    rw [List.forall_mem_cons] at hnames
    rw [writeEntries_cons] at h
    obtain ⟨c', hc', hcolumn', hentry⟩ :=
      run_entry ts hnames.1 (startsLine_writeEntries hnames.2) hcolumn h
    rw [hentry, ih _ hnames.2 hcolumn' hc' (.inl (by simp [entryTokens])) (by simp at hfuel; omega)]
    simp

end Lexer

end MeshAgent.Yaml
