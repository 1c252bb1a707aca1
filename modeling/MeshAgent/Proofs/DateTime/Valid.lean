import MeshAgent.Proofs.DateTime.Calendar
import MeshAgent.Proofs.DateTime.Written

/-!
# Dates that are read

Every date that is read lies in the calendar, whether it was a text or a number, and its offset is in
whole minutes. Numbers are dates only up to the year 9999.
-/
namespace MeshAgent

namespace Decimal

lemma digitValue_le {c : Char} (h : isDigit c = true) : digitValue c ≤ 9 := by
  simp only [isDigit, Bool.and_eq_true, decide_eq_true_eq] at h
  rw [digitValue]
  omega

lemma value_lt {ds : List Char} (h : ∀ c ∈ ds, isDigit c = true) : value ds < 10 ^ ds.length := by
  induction ds with
  | nil => decide
  | cons c ds ih =>
    have hc := digitValue_le (h c List.mem_cons_self)
    have hds := ih fun d hd => h d (List.mem_cons_of_mem _ hd)
    have hfirst : value (c :: ds) = digitValue c * 10 ^ ds.length + value ds := by
      have happend := value_append [c] ds
      have hsingle : value [c] = digitValue c := by simp [value]
      rw [hsingle] at happend
      exact happend
    have hle : digitValue c * 10 ^ ds.length ≤ 9 * 10 ^ ds.length := Nat.mul_le_mul_right _ hc
    rw [hfirst, List.length_cons, Nat.pow_succ]
    omega

end Decimal

namespace DateTime

lemma lt_of_readFour? {cs r : List Char} {n : Nat} (h : readFour? cs = some (n, r)) : n < 10000 := by
  obtain _ | ⟨a, _ | ⟨b, _ | ⟨c, _ | ⟨d, cs⟩⟩⟩⟩ := cs
  · simp [readFour?] at h
  · simp [readFour?] at h
  · simp [readFour?] at h
  · simp [readFour?] at h
  · rw [readFour?] at h
    split at h
    · rename_i hdigits
      rw [Option.some.injEq, Prod.mk.injEq] at h
      have hlt : Decimal.value [a, b, c, d] < 10 ^ 4 :=
        Decimal.value_lt (List.all_eq_true.mp hdigits)
      omega
    · simp at h

lemma lt_of_readMicros? {cs r : List Char} {n : Nat} (h : readMicros? cs = some (n, r)) :
    n < 1000000 := by
  rw [readMicros?, List.span_eq_takeWhile_dropWhile] at h
  simp only at h
  split at h
  · simp at h
  · rw [Option.some.injEq, Prod.mk.injEq] at h
    have hlt := @Decimal.value_lt
      ((cs.takeWhile Decimal.isDigit ++ List.replicate 6 '0').take 6) fun c hc => by
        rcases List.mem_append.mp (List.mem_of_mem_take hc) with hc | hc
        · exact List.all_eq_true.mp List.all_takeWhile c hc
        · rw [List.eq_of_mem_replicate hc]
          rfl
    have hlength : ((cs.takeWhile Decimal.isDigit ++ List.replicate 6 '0').take 6).length = 6 := by
      simp
    rw [hlength, h.1] at hlt
    exact hlt

lemma date_of_readDate? {cs r : List Char} {year month day : Nat}
    (h : readDate? cs = some ((year, month, day), r)) :
    year ≤ 9999 ∧ (1 ≤ month ∧ month ≤ 12) ∧
      1 ≤ day ∧ day ≤ Calendar.daysInMonth year month := by
  simp only [readDate?, Option.bind_eq_bind, Option.bind_eq_some_iff] at h
  obtain ⟨⟨y, r₁⟩, hyear, r₂, -, ⟨m, r₃⟩, -, r₄, -, ⟨d, r₅⟩, -, hif⟩ := h
  split at hif
  · rename_i hdate
    have hlt := lt_of_readFour? hyear
    simp only [Option.some.injEq, Prod.mk.injEq] at hif
    obtain ⟨⟨rfl, rfl, rfl⟩, -⟩ := hif
    exact ⟨by omega, ⟨hdate.1, hdate.2.1⟩, hdate.2.2⟩
  · simp at hif

lemma le_of_readSeconds? {cs r : List Char} {second micro : Nat}
    (h : readSeconds? cs = some ((second, micro), r)) : second ≤ 59 ∧ micro < 1000000 := by
  rw [readSeconds?.eq_def] at h
  split at h
  · simp only [Option.bind_eq_bind, Option.bind_eq_some_iff] at h
    obtain ⟨⟨s, r₁⟩, -, hif⟩ := h
    split at hif
    · simp at hif
    · rename_i hle
      split at hif
      · split at hif
        · simp only [Option.bind_eq_some_iff] at hif
          obtain ⟨⟨m, r₂⟩, hmicros, heq⟩ := hif
          have hlt := lt_of_readMicros? hmicros
          simp only [Option.some.injEq, Prod.mk.injEq] at heq
          omega
        · simp only [Option.some.injEq, Prod.mk.injEq] at hif
          omega
      · simp only [Option.some.injEq, Prod.mk.injEq] at hif
        omega
  · simp only [Option.some.injEq, Prod.mk.injEq] at h
    omega

lemma minutes_of_readOffset? {cs : List Char} {offset : Option Offset}
    (h : readOffset? cs = some offset) :
    ∀ o ∈ offset, ∃ m : Int, o = .ofMinutes m ∧ m.natAbs ≤ 1439 := by
  intro o ho
  obtain rfl : offset = some o := ho
  rw [readOffset?.eq_def] at h
  split at h
  · simp at h
  · split at h
    · split at h
      · simp only [Option.some.injEq] at h
        exact ⟨0, h.symm, by decide⟩
      · simp at h
    · split at h
      · simp only [Option.bind_eq_bind, Option.bind_eq_some_iff] at h
        obtain ⟨⟨hours, r₁⟩, -, ⟨minutes, r₂⟩, -, hif⟩ := h
        split at hif
        · rename_i hle
          simp only [Option.some.injEq] at hif
          refine ⟨_, hif.symm, ?_⟩
          split <;> omega
        · simp at hif
      · simp at h

/-- What is said of a date that was read. The year 0 is refused later. -/
def Told (d : DateTime) : Prop := d.year ≠ 0 → d.Valid ∧ d.OnWire

lemma told_of_readFull? {cs : List Char} {d : DateTime} (h : readFull? cs = some d) : d.Told := by
  intro hyear
  simp only [readFull?, Option.bind_eq_bind, Option.bind_eq_some_iff] at h
  obtain ⟨⟨⟨y, mo, da⟩, r₁⟩, hdate, hif⟩ := h
  obtain ⟨hy, hmo, hda⟩ := date_of_readDate? hdate
  split at hif
  · split at hif
    · simp only [Option.bind_eq_some_iff] at hif
      obtain ⟨⟨ho, r₂⟩, -, r₃, -, ⟨mi, r₄⟩, -, hif⟩ := hif
      split at hif
      · rename_i hclock
        simp only [Option.bind_eq_some_iff] at hif
        obtain ⟨⟨⟨se, mic⟩, r₅⟩, hseconds, offset, hoffset, heq⟩ := hif
        obtain rfl := Option.some.inj heq
        obtain ⟨hse, hmic⟩ := le_of_readSeconds? hseconds
        have hpos : 1 ≤ y := by
          have hne : y ≠ 0 := hyear
          omega
        have hminutes := minutes_of_readOffset? hoffset
        refine ⟨⟨hpos, hy, hmo.1, hmo.2, hda.1, hda.2, hclock.1, hclock.2, hse, hmic, ?_⟩, ?_⟩
        · intro o ho
          obtain ⟨m, rfl, hm⟩ := hminutes o ho
          simp only [Offset.ofMinutes]
          omega
        · intro o ho
          obtain ⟨m, hm, -⟩ := hminutes o ho
          exact ⟨m, hm⟩
      · simp at hif
    · simp at hif
  · simp at hif

lemma told_of_readDay? {cs : List Char} {d : DateTime} (h : readDay? cs = some d) : d.Told := by
  intro hyear
  simp only [readDay?, Option.bind_eq_bind, Option.bind_eq_some_iff] at h
  obtain ⟨⟨⟨y, mo, da⟩, r₁⟩, hdate, hif⟩ := h
  obtain ⟨hy, hmo, hda⟩ := date_of_readDate? hdate
  split at hif
  · obtain rfl := Option.some.inj hif
    have hpos : 1 ≤ y := by
      have hne : y ≠ 0 := hyear
      omega
    exact ⟨⟨hpos, hy, hmo.1, hmo.2, hda.1, hda.2, by simp, by simp, by simp, by simp, by simp⟩,
      fun o ho => by simp at ho⟩
  · simp at hif

/-- A time between the years 0 and 9999 has a date. -/
lemma told_ofUnix {seconds : Int} {micro : Nat} (h₀ : firstSecond ≤ seconds)
    (h₁ : seconds ≤ lastSecond) (hmicro : micro < 1000000) : (ofUnix seconds micro).Told := by
  rw [firstSecond] at h₀
  rw [lastSecond] at h₁
  have hdiv : seconds.fdiv 86400 = seconds / 86400 := Int.fdiv_eq_ediv_of_nonneg _ (by omega)
  have hmod : seconds.fmod 86400 = seconds % 86400 := Int.fmod_eq_emod_of_nonneg _ (by omega)
  obtain ⟨hmo₀, hmo₁, hda₀, hda₁⟩ := Calendar.dateOf_spec (seconds / 86400)
  obtain ⟨hy₀, hy₁⟩ := @Calendar.year_dateOf (seconds / 86400) (by omega) (by omega)
  rw [Told, ofUnix, hdiv, hmod]
  generalize Calendar.dateOf (seconds / 86400) = date at hmo₀ hmo₁ hda₀ hda₁ hy₀ hy₁
  have hcast : (date.year.toNat : Int) = date.year := by omega
  intro hyear
  refine ⟨?_, fun o ho => ⟨0, (Option.some.inj ho).symm⟩⟩
  constructor
  case year_pos => exact Nat.pos_of_ne_zero hyear
  case year_le => simp only; omega
  case month_pos => exact hmo₀
  case month_le => exact hmo₁
  case day_pos => exact hda₀
  case day_le =>
    simp only [hcast]
    exact hda₁
  case hour_le => simp only; omega
  case minute_le => simp only; omega
  case second_le => simp only; omega
  case micro_lt => exact hmicro
  case offset_lt => simp [Offset.ofMinutes]

lemma told_of_range {seconds : Int} {micro : Nat} {d : DateTime} (hmicro : micro < 1000000)
    (h : (if firstSecond ≤ seconds ∧ seconds ≤ lastSecond then some (ofUnix seconds micro)
      else none) = some d) : d.Told := by
  split at h
  · rename_i hrange
    obtain rfl := Option.some.inj h
    exact told_ofUnix hrange.1 hrange.2 hmicro
  · simp at h

lemma told_of_ofNumber? {n : Int} {micro : Nat} {d : DateTime} (h : ofNumber? n micro = some d) :
    d.Told := by
  simp only [ofNumber?] at h
  exact told_of_range (Nat.mod_lt _ (by omega)) h

lemma told_of_ofBinary? {x : Binary64} {d : DateTime} (h : ofBinary? x = some d) : d.Told := by
  cases x with
  | finite m e => exact told_of_ofNumber? h
  | _ => simp [ofBinary?] at h

lemma told_of_ofSeconds? {x : Binary64} {d : DateTime} (h : ofSeconds? x = some d) : d.Told := by
  cases x with
  | finite m e => exact told_of_ofNumber? h
  | _ => simp [ofSeconds?] at h

lemma told_of_ofPointed? {x : Binary64} {d : DateTime} (h : ofPointed? x = some d) : d.Told := by
  cases x with
  | finite m e =>
    rw [ofPointed?] at h
    split at h <;> exact told_of_ofSeconds? h
  | _ => simp [ofPointed?] at h

/-- Whatever the sign and the fraction of a number are, its integer part is seconds or milliseconds. -/
lemma told_of_readNumeric? {cs : List Char} {d : DateTime} (h : readNumeric? cs = some d) :
    d.Told := by
  simp only [readNumeric?] at h
  split at h
  · split at h
    · split at h
      · simp at h
      · exact told_of_ofNumber? h
    · split at h
      · simp at h
      · obtain ⟨e, -, hpointed⟩ := Option.bind_eq_some_iff.mp h
        exact told_of_ofPointed? hpointed
    · simp at h
  · simp at h

lemma Told.of_checkYear {d t : DateTime} (h : d.Told) (hyear : checkYear d = .ok t) :
    t.Valid ∧ t.OnWire := by
  rw [checkYear] at hyear
  split at hyear
  · simp at hyear
  · rename_i hne
    obtain rfl := Except.ok.inj hyear
    exact h hne

/-- A text that is read as a date is one. -/
theorem valid_of_ofText {cs : List Char} {d : DateTime} (h : ofText cs = .ok d) :
    d.Valid ∧ d.OnWire := by
  rw [ofText] at h
  split at h
  · rename_i d' hread
    refine Told.of_checkYear ?_ h
    cases hfull : readFull? cs with
    | some d =>
      rw [hfull] at hread
      obtain rfl := Option.some.inj hread
      exact told_of_readFull? hfull
    | none =>
      rw [hfull] at hread
      cases hnumeric : readNumeric? cs with
      | some d =>
        rw [hnumeric] at hread
        obtain rfl := Option.some.inj hread
        exact told_of_readNumeric? hnumeric
      | none =>
        rw [hnumeric] at hread
        exact told_of_readDay? hread
  · simp at h

end DateTime

end MeshAgent
