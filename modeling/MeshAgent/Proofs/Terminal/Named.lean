import Mathlib.Data.List.Basic
import Mathlib.Tactic.Lemma
import MeshAgent.Terminal.Style

/-!
# Names of styles are read

Only a colour that is given by numbers can fail to be read, and its numbers stand in round brackets. A
name without such a bracket has none in lower case either, nor has any of its words.
-/
namespace MeshAgent

namespace Text

variable {cs before : List Char}

/-- The small letters come later than all brackets. -/
lemma capitals_high : capitals.all (fun run => 41 ≤ (run.1 : Int) + run.2.2.2) = true := by
  decide +kernel

lemma lowerCode_ne {n : Nat} (h : n ≠ 40) : lowerCode n ≠ 40 := by
  rw [lowerCode]
  split
  · rename_i first last step distance hfind
    have hrun := List.find?_some hfind
    have hhigh := List.all_eq_true.mp capitals_high _ (List.mem_of_find?_eq_some hfind)
    simp only [Bool.and_eq_true, decide_eq_true_eq] at hrun hhigh
    omega
  · exact h

lemma not_mem_lowerFrom (h : '(' ∉ cs) : '(' ∉ lowerFrom before cs := by
  induction cs generalizing before with
  | nil => exact h
  | cons c cs ih =>
    rw [List.mem_cons, not_or] at h
    rw [lowerFrom, List.mem_append, not_or]
    refine ⟨?_, ih h.2⟩
    have hletter : Char.ofNat (lowerCode c.toNat) ≠ '(' := by
      intro heq
      have hcode := lowerCode_ne (n := c.toNat) fun hc => h.1 (Char.toNat_inj.mp hc.symm)
      by_cases hvalid : (lowerCode c.toNat).isValidChar
      · rw [Char.ofNat, dif_pos hvalid] at heq
        exact hcode (congrArg Char.toNat heq)
      · rw [Char.ofNat, dif_neg hvalid] at heq
        exact absurd heq (by decide)
    split_ifs
    · decide
    · decide
    · decide
    · exact fun hmem => hletter (List.mem_singleton.mp hmem).symm

lemma not_mem_lower {s : String} (h : '(' ∉ s.toList) : '(' ∉ (lower s).toList := by
  rw [lower, String.toList_ofList]
  exact not_mem_lowerFrom h

lemma subset_of_mem_tokens {p : Char → Bool} {t : List Char} (h : t ∈ tokens p cs) : t ⊆ cs := by
  induction cs generalizing t with
  | nil => exact absurd h List.not_mem_nil
  | cons c r ih =>
    rw [tokens.eq_def] at h
    simp only at h
    split at h
    · exact List.subset_cons_of_subset _ (ih h)
    · cases r with
      | nil => exact List.mem_singleton.mp h ▸ List.Subset.refl _
      | cons d r =>
        simp only at h
        split at h
        · rcases List.mem_cons.mp h with rfl | h
          · exact List.cons_subset_cons _ (List.nil_subset _)
          · exact List.subset_cons_of_subset _ (ih h)
        · split at h
          · rename_i u us hmore
            rcases List.mem_cons.mp h with rfl | h
            · exact List.cons_subset_cons _ (ih (hmore ▸ List.mem_cons_self))
            · exact List.subset_cons_of_subset _ (ih (hmore ▸ List.mem_cons_of_mem _ h))
          · exact List.mem_singleton.mp h ▸ List.cons_subset_cons _ (List.nil_subset _)

lemma trim_subset (p : Char → Bool) (cs : List Char) : trim p cs ⊆ cs := by
  intro c hc
  have hrest := (List.dropWhile_sublist p).subset (List.mem_reverse.mp hc)
  exact (List.dropWhile_sublist p).subset (List.mem_reverse.mp hrest)

end Text

namespace Style

lemma isColor_eq_ok {word : String} (h : '(' ∉ word.toList) : ∃ b, isColor word = .ok b := by
  rw [isColor, Text.cutFirst_of_not_mem h]
  split
  · exact ⟨_, rfl⟩
  · split
    · exact ⟨_, rfl⟩
    · rename_i hcut
      exact nomatch (Prod.mk.inj hcut).2
    · exact ⟨_, rfl⟩

/-- A word that is taken for a colour is one or not, and both is said. -/
lemma exists_of_isColor {w : String} (h : '(' ∉ w.toList) {f g : Except Failure (Option Definition)}
    (hf : ∃ o, f = .ok o) (hg : ∃ o, g = .ok o) :
    ∃ o, (do if ← isColor (Text.lower w) then f else g) = .ok o := by
  obtain ⟨b, hb⟩ := isColor_eq_ok (Text.not_mem_lower h)
  rw [hb]
  cases b
  · exact hg
  · exact hf

lemma read?_eq_ok {words : List String} (h : ∀ w ∈ words, '(' ∉ w.toList) (d : Definition) :
    ∃ o, read? words d = .ok o := by
  induction hn : words.length using Nat.strongRecOn generalizing words d with
  | ind n ih =>
    have hread : ∀ rest, rest <:+ words → rest.length < n → ∀ d, ∃ o, read? rest d = .ok o :=
      fun rest hrest hlt d => ih _ hlt (fun w hw => h w (hrest.subset hw)) d rfl
    cases words with
    | nil => exact ⟨_, read?.eq_1 d⟩
    | cons w rest =>
      have hrest := hread rest (List.suffix_cons w rest) (by simp [← hn])
      rw [read?.eq_def]
      simp only
      split_ifs
      · cases rest with
        | nil => exact ⟨_, rfl⟩
        | cons color rest =>
          refine exists_of_isColor (h _ (by simp)) ?_ ⟨_, rfl⟩
          exact hread rest ⟨[w, color], rfl⟩ (by simp only [← hn, List.length_cons]; omega) _
      · cases rest with
        | nil => exact ⟨_, rfl⟩
        | cons name rest =>
          simp only
          split
          · exact hread rest ⟨[w, name], rfl⟩ (by simp only [← hn, List.length_cons]; omega) _
          · exact ⟨_, rfl⟩
      · cases rest with
        | nil => exact ⟨_, rfl⟩
        | cons target rest =>
          exact hread rest ⟨[w, target], rfl⟩ (by simp only [← hn, List.length_cons]; omega) _
      · split
        · exact hrest _
        · exact exists_of_isColor (h w List.mem_cons_self) (hrest _) ⟨_, rfl⟩

/-- A name without numbers in brackets has a normal form. -/
theorem normal_eq_ok {cs : List Char} (h : '(' ∉ cs) : ∃ name, normal cs = .ok name := by
  have hwords : ∀ w ∈ (Text.tokens Text.isBlank cs).map String.ofList, '(' ∉ w.toList := by
    rw [List.forall_mem_map]
    intro t ht
    rw [String.toList_ofList]
    exact fun hmem => h (Text.subset_of_mem_tokens ht hmem)
  obtain ⟨o, ho⟩ := read?_eq_ok hwords {}
  rw [normal]
  split
  · exact ⟨_, rfl⟩
  · rw [ho]
    cases o <;> exact ⟨_, rfl⟩

end Style

end MeshAgent
