import MeshAgent.Proofs.Yaml.Quoted

/-!
# Escapes that were written

Between double quotes every character that is no plain ASCII has an escape, and a line that is
folded ends with one. A space right behind such a line end is escaped too, since spaces there only
indent.
-/
namespace MeshAgent.Yaml

variable {s t rest e : List Char} {y l k : Char} {n : Nat}

namespace Scalar

/-- What stands for itself between double quotes. -/
lemma unescaped_iff_of_escape? (h : escape? y = none) :
    y = ' ' ∨ isGlyph y = true ∧ y ≠ '"' ∧ y ≠ '\\' := by
  rw [escape?] at h
  split at h
  · cases h
  · next hlookup =>
    split_ifs at h with hvisible
    by_cases hspace : y = ' '
    · exact .inl hspace
    · refine .inr ⟨?_, ?_, ?_⟩
      · have hne : y.toNat ≠ 32 := fun heq => hspace (Char.toNat_inj.mp heq)
        rw [isGlyph_iff]
        omega
      · rintro rfl
        cases hlookup
      · rintro rfl
        cases hlookup

lemma exists_eq_of_escape? (h : escape? y = some e) : ∃ r, e = '\\' :: r := by
  rw [escape?] at h
  split at h
  · exact ⟨_, (Option.some.inj h).symm⟩
  · split_ifs at h <;> exact ⟨_, (Option.some.inj h).symm⟩

/-- A digit in capital letters is written without an escape and keeps its value. -/
lemma upper_hexDigit : ∀ d < 16,
    let upper := if 'a' ≤ Text.hexDigit d then Char.ofNat ((Text.hexDigit d).toNat - 32)
      else Text.hexDigit d
    Bytes.hexValue? upper = Bytes.hexValue? (Text.hexDigit d) ∧
      ScalarStyle.isOrdinary upper = true := by
  decide

lemma mapM_hexValue?_upperHex (width n : Nat) :
    (upperHex width n).mapM Bytes.hexValue? = (Text.hexPad width n).mapM Bytes.hexValue? := by
  have hall : ∀ c ∈ Text.hexPad width n, ∃ d < 16, c = Text.hexDigit d := fun c => Text.mem_hexPad
  rw [upperHex]
  generalize Text.hexPad width n = digits at hall
  induction digits with
  | nil => rfl
  | cons c digits ih =>
    obtain ⟨d, hd, rfl⟩ := hall c List.mem_cons_self
    rw [List.map_cons, List.mapM_cons, List.mapM_cons, (upper_hexDigit d hd).1,
      ih fun c hc => hall c (List.mem_cons_of_mem _ hc)]

lemma isOrdinary_of_mem_upperHex {width n : Nat} {x : Char} (h : x ∈ upperHex width n) :
    ScalarStyle.isOrdinary x = true := by
  obtain ⟨c, hc, rfl⟩ := List.mem_map.mp h
  obtain ⟨d, hd, rfl⟩ := Text.mem_hexPad hc
  exact (upper_hexDigit d hd).2

lemma length_upperHex (width n : Nat) : (upperHex width n).length = width := by
  rw [upperHex, List.length_map, Text.length_hexPad]

lemma isOrdinary_of_mem_escape? (h : escape? y = some e) :
    ∀ x ∈ e, ScalarStyle.isOrdinary x = true := by
  have hhex : ∀ (k : Char) (n : Nat), ScalarStyle.isOrdinary k = true →
      ∀ x ∈ '\\' :: k :: upperHex n y.toNat, ScalarStyle.isOrdinary x = true := by
    intro k n hk x hx
    rcases List.mem_cons.mp hx with rfl | hx
    · rfl
    rcases List.mem_cons.mp hx with rfl | hx
    · exact hk
    · exact isOrdinary_of_mem_upperHex hx
  rw [escape?] at h
  split at h
  · next l hlookup =>
    have hshort : ∀ p ∈ shortEscapes, ScalarStyle.isOrdinary p.2 = true := by decide
    obtain ⟨before, behind, hmem, -⟩ := List.lookup_eq_some_iff.mp hlookup
    have hl := hshort (y, l) (by rw [hmem]; simp)
    rw [← Option.some.inj h]
    simpa using ⟨rfl, hl⟩
  · split_ifs at h <;> exact Option.some.inj h ▸ hhex _ _ rfl

lemma isOrdinary_of_mem_escaped (first fresh : Bool) (column : Nat) (s : List Char) :
    ∀ x ∈ escaped first fresh column s, ScalarStyle.isOrdinary x = true := by
  have hfold : ∀ o x, x ∈ escapedFold o → ScalarStyle.isOrdinary x = true := by
    intro o
    rw [escapedFold]
    split_ifs <;> exact List.all_eq_true.mp rfl
  induction s generalizing first fresh column with
  | nil => simp [escaped]
  | cons y s ih =>
    rw [escaped]
    cases hy : escape? y with
    | some e =>
      simp only
      split_ifs <;> intro x hx <;> simp only [List.mem_append] at hx
      · rcases hx with (hx | hx) | hx
        · exact isOrdinary_of_mem_escape? hy x hx
        · exact hfold _ x hx
        · exact ih _ _ _ x hx
      · rcases hx with hx | hx
        · exact isOrdinary_of_mem_escape? hy x hx
        · exact ih _ _ _ x hx
    | none =>
      have hord : ScalarStyle.isOrdinary y = true :=
        isOrdinary_iff.mpr (.inr ((unescaped_iff_of_escape? hy).imp_right And.left))
      simp only
      split_ifs <;> intro x hx <;> simp only [List.mem_append, List.mem_cons] at hx
      · rcases hx with hx | rfl | hx
        · exact hfold _ x hx
        · exact hord
        · exact ih _ _ _ x hx
      · rcases hx with rfl | hx
        · exact hord
        · exact ih _ _ _ x hx

end Scalar

namespace Quoted

/-- The digits of a character are read back, if there are enough of them. -/
lemma ofHex_upperHex (h : y.toNat < 16 ^ n) : ofHex (Scalar.upperHex n y.toNat) = .ok y := by
  obtain ⟨ds, hds, hfold⟩ := Bytes.mapM_hexValue?_hexPad n y.toNat
  rw [Nat.mod_eq_of_lt h] at hfold
  have hchar : ∀ k (hk : k.isValidChar), k = y.toNat → Char.ofNatAux k hk = y := by
    rintro _ _ rfl
    rfl
  have hvalid : (ds.foldl (fun acc d => acc * 16 + d) 0).isValidChar := hfold ▸ y.valid
  rw [ofHex, Scalar.mapM_hexValue?_upperHex, hds]
  exact (dif_pos hvalid).trans (congrArg Except.ok (hchar _ hvalid hfold))

namespace Scans

lemma short (h : Scans true t s rest) (hl : isBreak l = false)
    (hfind : shortEscapes.find? (fun p => p.1 = l) = some (k, y)) :
    Scans true ('\\' :: l :: t) (y :: s) rest := by
  refine Scans.prepend (u := ['\\', l]) (x := [y]) (by simp) h fun c fuel c' hc hbody => ?_
  have hbody : body true fuel (c.skip 2) = .ok (s, c') := hbody
  rw [body, hc]
  simp [hl, hfind, hbody, bind, Except.bind]

lemma hex (h : Scans true t s rest) (hk : isBreak k = false)
    (hfind : shortEscapes.find? (fun p => p.1 = k) = none) (hn : escapeLength? k = some n)
    (hy : y.toNat < 16 ^ n) :
    Scans true ('\\' :: k :: (Scalar.upperHex n y.toNat ++ t)) (y :: s) rest := by
  refine Scans.prepend (u := '\\' :: k :: Scalar.upperHex n y.toNat) (x := [y]) (by simp) h
    fun c fuel c' hc hbody => ?_
  have hlength : ('\\' :: k :: Scalar.upperHex n y.toNat).length = 2 + n := by
    simp [Scalar.length_upperHex]
    omega
  have htake : (Scalar.upperHex n y.toNat ++ t).take n = Scalar.upperHex n y.toNat :=
    List.take_left' (Scalar.length_upperHex n _)
  rw [hlength] at hbody
  rw [body, hc]
  simp [hk, hfind, hn, htake, hbody, ofHex_upperHex hy, Scalar.length_upperHex, bind, Except.bind]

/-- Every escape is read as the character that it was written for. -/
lemma escape (h : Scans true t s rest) (hy : Scalar.escape? y = some e) :
    Scans true (e ++ t) (y :: s) rest := by
  have hshort : ∀ p ∈ Scalar.shortEscapes, isBreak p.2 = false ∧
      shortEscapes.find? (fun q => q.1 = p.2) = some (p.2, p.1) := by decide
  rw [Scalar.escape?] at hy
  split at hy
  · next l hlookup =>
    obtain rfl := Option.some.inj hy
    obtain ⟨before, behind, hmem, -⟩ := List.lookup_eq_some_iff.mp hlookup
    obtain ⟨hbreak, hfind⟩ := hshort (y, l) (by rw [hmem]; simp)
    exact h.short hbreak hfind
  · split_ifs at hy with hvisible h8 h16
    · obtain rfl := Option.some.inj hy
      exact h.hex (n := 2) rfl rfl rfl (by omega)
    · obtain rfl := Option.some.inj hy
      exact h.hex (n := 4) rfl rfl rfl (by omega)
    · obtain rfl := Option.some.inj hy
      have hmax : y.toNat < 0x110000 := by
        have hvalid : y.toNat.isValidChar := y.valid
        rcases hvalid with h | h <;> omega
      exact h.hex (n := 8) rfl rfl rfl (by omega)

/-- The end of a line says nothing behind a backslash. -/
lemma escapedBreak (h : Scans true t s rest) (ht : ∀ x ∈ t.head?, isGlyph x = true) :
    Scans true ('\\' :: '\n' :: (foldIndent ++ t)) s rest := by
  refine Scans.prepend (u := '\\' :: '\n' :: foldIndent) (x := []) (by simp) h
    fun c fuel c' hc hbody => ?_
  have hrest : (c.skip 2).rest = List.replicate 0 '\n' ++ foldIndent ++ t := by
    rw [Cursor.rest_skip, hc]
    rfl
  have hbreaks : ∀ k, breaks? (k + 1) (c.skip 2) = some ([], (c.skip 2).skip 2) :=
    fun k => breaks?_written hrest ht (Nat.succ_pos k)
  have hbody : body true fuel ((c.skip 2).skip 2) = .ok (s, c') := by rwa [← Cursor.skip_add]
  have hbreak : isBreak '\n' = true := rfl
  rw [body, hc]
  simp [hbreak, hbreaks, hbody, bind, Except.bind]

/-- A character without an escape stands for itself, unless it is a space in front of the end of a
line. -/
lemma unescaped (h : Scans true t s rest) (hy : Scalar.escape? y = none) (ht : EndsInline t) :
    Scans true (y :: t) (y :: s) rest := by
  rcases Scalar.unescaped_iff_of_escape? hy with rfl | ⟨hglyph, hquote⟩
  · exact h.blank ht
  · exact h.glyph hglyph nofun fun _ => hquote

/-- A line is folded in front of any character. -/
lemma folded (h : Scans true t s rest) (hy : Scalar.escape? y = none) :
    Scans true (Scalar.escapedFold (some y) ++ y :: t) (y :: s) rest := by
  rcases Scalar.unescaped_iff_of_escape? hy with rfl | ⟨hglyph, hquote⟩
  · exact (h.short (l := ' ') rfl rfl).escapedBreak (by simp; decide)
  · have hspace : some y ≠ some ' ' := fun heq => ne_space_of_isGlyph hglyph (Option.some.inj heq)
    rw [Scalar.escapedFold, if_neg hspace, List.append_nil]
    exact (h.glyph hglyph nofun fun _ => hquote).escapedBreak (by simpa using hglyph)

end Scans

open Scalar in
lemma endsInline_escaped (first fresh : Bool) (column : Nat) (s rest : List Char) :
    EndsInline (escaped first fresh column s ++ '"' :: rest) := by
  induction s generalizing first fresh column with
  | nil => exact endsInline_of_glyph (by simp [escaped]; decide)
  | cons y s ih =>
    have hslash : ∀ r, EndsInline ('\\' :: r) := fun r => endsInline_of_glyph (by simp; decide)
    rw [escaped]
    cases hy : escape? y with
    | some e =>
      obtain ⟨r, rfl⟩ := exists_eq_of_escape? hy
      simp only
      split_ifs <;> exact hslash _
    | none =>
      simp only
      split_ifs
      · exact hslash _
      · rcases unescaped_iff_of_escape? hy with rfl | ⟨hglyph, -⟩
        · exact endsInline_space.mpr (ih _ _ _)
        · exact endsInline_of_glyph (by simpa using hglyph)

open Scalar in
/-- A text in double quotes is read back, whether or not a line has just been folded in front of
it. -/
lemma scans_escaped_and_folded (s rest : List Char) :
    (∀ first fresh column, Scans true (escaped first fresh column s ++ '"' :: rest) s rest) ∧
      Scans true
        (escapedFold s.head? ++ escaped false true (columnAfterFold s.head?) s ++ '"' :: rest)
        s rest := by
  induction s with
  | nil =>
    exact ⟨fun _ _ _ => scans_close_double, scans_close_double.escapedBreak (by simp; decide)⟩
  | cons y s ih =>
    have hstep : ∀ first fresh column,
        Scans true (escaped first fresh column (y :: s) ++ '"' :: rest) (y :: s) rest := by
      intro first fresh column
      rw [escaped]
      cases hy : escape? y with
      | some e =>
        simp only
        split_ifs
        · simpa using ih.2.escape hy
        · simpa using (ih.1 _ _ _).escape hy
      | none =>
        simp only
        split_ifs
        · simpa using (ih.1 _ _ _).folded hy
        · exact (ih.1 _ _ _).unescaped hy (endsInline_escaped _ _ _ _ _)
    refine ⟨hstep, ?_⟩
    rw [List.head?_cons]
    cases hy : escape? y with
    | some e =>
      obtain ⟨r, rfl⟩ := exists_eq_of_escape? hy
      have hspace : some y ≠ some ' ' := fun heq => by
        rw [Option.some.inj heq] at hy
        cases hy
      rw [escapedFold, if_neg hspace, List.append_nil, List.append_assoc]
      refine (hstep _ _ _).escapedBreak ?_
      rw [escaped, hy]
      simp only
      split_ifs <;> (simp; decide)
    | none =>
      have hshort : ¬ lineWidth < columnAfterFold (some y) := by
        rw [columnAfterFold]
        split_ifs <;> decide
      rw [escaped, hy]
      simp only [hshort, decide_false, Bool.and_false, Bool.false_eq_true, if_false]
      simpa using (ih.1 _ _ _).folded hy

end Quoted

end MeshAgent.Yaml
