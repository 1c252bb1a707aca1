import MeshAgent.DateTime.Reader
import MeshAgent.Proofs.Text.Written

/-!
# Written dates are read back

A date is written in parts of fixed width, and each part is read off the front of what is left. Only
the fraction of a second and the offset may be missing.
-/
namespace MeshAgent

namespace Decimal

lemma length_padTo (width n : Nat) : (padTo width n).length = width := by
  induction width generalizing n with
  | zero => rfl
  | succ w ih => simp [padTo, ih]

lemma isDigit_of_mem_padTo {width n : Nat} {c : Char} (h : c ∈ padTo width n) :
    isDigit c = true := by
  induction width generalizing n with
  | zero => simp [padTo] at h
  | succ w ih =>
    rw [padTo, List.mem_append, List.mem_singleton] at h
    rcases h with h | rfl
    · exact ih h
    · exact isDigit_digitChar n

/-- The digits that have no place are the ones that are dropped. -/
lemma value_padTo (width n : Nat) : value (padTo width n) = n % 10 ^ width := by
  induction width generalizing n with
  | zero => exact (Nat.mod_one n).symm
  | succ w ih =>
    have hpow : 10 ^ (w + 1) = 10 * 10 ^ w := by rw [Nat.pow_succ, Nat.mul_comm]
    have hlast : value [digitChar n] = n % 10 := by simp [value, digitValue_digitChar]
    rw [padTo, value_append, ih, hlast, hpow, Nat.mod_mul, List.length_singleton]
    change n / 10 % 10 ^ w * 10 + n % 10 = _
    omega

end Decimal

namespace DateTime

lemma readTwo?_pad2 {n : Nat} (h : n < 100) (r : List Char) :
    readTwo? (Decimal.pad2 n ++ r) = some (n, r) := by
  have hvalue : Decimal.value [Decimal.digitChar (n / 10), Decimal.digitChar n] = n := by
    simp only [Decimal.value, List.foldl_cons, List.foldl_nil, Decimal.digitValue_digitChar]
    omega
  simp only [Decimal.pad2, List.cons_append, List.nil_append, readTwo?, Decimal.isDigit_digitChar,
    and_self, if_true, hvalue]

lemma readFour?_padTo {n : Nat} (h : n < 10000) (r : List Char) :
    readFour? (Decimal.padTo 4 n ++ r) = some (n, r) := by
  have hvalue := Decimal.value_padTo 4 n
  have hdigits : (Decimal.padTo 4 n).all Decimal.isDigit = true :=
    List.all_eq_true.mpr fun c hc => Decimal.isDigit_of_mem_padTo hc
  simp only [Decimal.padTo, List.nil_append, List.cons_append] at hvalue hdigits ⊢
  rw [readFour?, if_pos hdigits, hvalue, Nat.mod_eq_of_lt (show n < 10 ^ 4 from h)]

lemma readDate?_written {year month day : Nat} (hyear : year ≤ 9999)
    (hmonth : 1 ≤ month ∧ month ≤ 12)
    (hday : 1 ≤ day ∧ day ≤ Calendar.daysInMonth year month) (r : List Char) :
    readDate? (Decimal.padTo 4 year ++ '-' :: (Decimal.pad2 month ++ '-' :: (Decimal.pad2 day ++ r))) =
      some ((year, month, day), r) := by
  have hlength : Calendar.daysInMonth year month ≤ 31 := by
    rw [Calendar.daysInMonth]
    split <;> split <;> omega
  simp only [readDate?, readFour?_padTo (show year < 10000 by omega), Option.bind_eq_bind,
    Option.bind_some, dropChar?, if_true, readTwo?_pad2 (show month < 100 by omega),
    readTwo?_pad2 (show day < 100 by omega)]
  exact if_pos ⟨hmonth.1, hmonth.2, hday.1, hday.2⟩

/-- An offset that its text tells apart from every other: whole minutes, at a clock time that the zone
has only once. -/
def OnWire (d : DateTime) : Prop := ∀ o ∈ d.offset, ∃ minutes : Int, o = .ofMinutes minutes

lemma head?_writeZone {zone : Option Offset} {c : Char} (h : c ∈ (writeZone zone).head?) :
    c = 'Z' ∨ c = '+' ∨ c = '-' := by
  cases zone with
  | none => simp [writeZone] at h
  | some o =>
    rw [writeZone, Option.map_some, Option.getD_some, Offset.sent] at h
    split at h
    · simp at h
      exact Or.inl h.symm
    · split at h
      · simp at h
        exact Or.inr (Or.inr h.symm)
      · simp at h
        exact Or.inr (Or.inl h.symm)

lemma readOffset?_sign {c : Char} (hc : c = '+' ∨ c = '-') {hours minutes : Nat} (hh : hours ≤ 23)
    (hm : minutes ≤ 59) :
    readOffset? (c :: (Decimal.pad2 hours ++ ':' :: Decimal.pad2 minutes)) =
      some (some (.ofMinutes
        (if c = '+' then (hours * 60 + minutes : Int) else -(hours * 60 + minutes)))) := by
  have hlast := readTwo?_pad2 (show minutes < 100 by omega) []
  rw [List.append_nil] at hlast
  have hsign : c ≠ 'Z' ∧ c ≠ 'z' := by rcases hc with rfl | rfl <;> decide
  have hsigns : c = '+' ∨ c = '-' ∨ c = '−' := hc.imp_right Or.inl
  simp only [readOffset?, hsign, or_self, if_false, hsigns, if_true,
    readTwo?_pad2 (show hours < 100 by omega), hlast, Option.bind_eq_bind, Option.bind_some]
  exact if_pos ⟨rfl, hh, hm⟩

/-- Whole minutes are sent without rounding. -/
lemma readOffset?_writeZone {d : DateTime} (h : d.Valid) (hwire : d.OnWire) :
    readOffset? (writeZone d.offset) = some d.offset := by
  cases hzone : d.offset with
  | none => rfl
  | some o =>
    obtain ⟨m, rfl⟩ := hwire o hzone
    have hlt : (m * 60000000).natAbs < 86400000000 := h.offset_lt _ hzone
    have hseconds : ((m * 60000000).natAbs + 500000) / 1000000 = m.natAbs * 60 := by omega
    have hhours : m.natAbs * 60 / 3600 ≤ 23 := by omega
    have hminutes : m.natAbs * 60 / 60 % 60 ≤ 59 := by omega
    simp only [writeZone, Option.map_some, Option.getD_some, Offset.sent, Offset.ofMinutes, hseconds]
    by_cases hzero : m = 0
    · subst hzero
      rfl
    · rw [if_neg (by omega), List.cons_append]
      by_cases hneg : m * 60000000 < 0
      · rw [if_pos hneg, readOffset?_sign (Or.inr rfl) hhours hminutes, if_neg (by decide)]
        congr 2
        simp only [Offset.ofMinutes]
        congr 1
        omega
      · rw [if_neg hneg, readOffset?_sign (Or.inl rfl) hhours hminutes, if_pos rfl]
        congr 2
        simp only [Offset.ofMinutes]
        congr 1
        omega

/-- The seconds, their fraction if there is one, and what follows them. -/
lemma readSeconds?_written {second micro : Nat} (hsecond : second ≤ 59) (hmicro : micro < 1000000)
    (zone : Option Offset) :
    readSeconds? (':' :: (Decimal.pad2 second ++
      ((if micro = 0 then [] else '.' :: Decimal.padTo 6 micro) ++ writeZone zone))) =
      some ((second, micro), writeZone zone) := by
  have hsec : ¬ 59 < second := by omega
  simp only [readSeconds?, readTwo?_pad2 (show second < 100 by omega), Option.bind_eq_bind,
    Option.bind_some, if_neg hsec]
  by_cases hzero : micro = 0
  · subst hzero
    simp only [if_true, List.nil_append]
    cases hzone : writeZone zone with
    | nil => rfl
    | cons c r =>
      have hc := @head?_writeZone zone c (by rw [hzone]; rfl)
      rcases hc with rfl | rfl | rfl <;> rfl
  · have hspan : (Decimal.padTo 6 micro ++ writeZone zone).span Decimal.isDigit =
        (Decimal.padTo 6 micro, writeZone zone) :=
      Decimal.span_isDigit_append (fun c hc => Decimal.isDigit_of_mem_padTo hc) fun c hc => by
        rcases head?_writeZone hc with rfl | rfl | rfl <;> rfl
    have hsix : (Decimal.padTo 6 micro ++ List.replicate 6 '0').take 6 = Decimal.padTo 6 micro := by
      have hlength := Decimal.length_padTo 6 micro
      rw [List.take_append_of_le_length (by omega), List.take_of_length_le (by omega)]
    have hmicros : readMicros? (Decimal.padTo 6 micro ++ writeZone zone) =
        some (micro, writeZone zone) := by
      rw [readMicros?, hspan]
      simp only [hsix, Decimal.value_padTo, Nat.mod_eq_of_lt (show micro < 10 ^ 6 from hmicro)]
      rfl
    simp only [if_neg hzero, List.cons_append, true_or, if_true, hmicros, Option.bind_some]

lemma writeClock_append (d : DateTime) (r : List Char) :
    d.writeClock ++ r =
      Decimal.padTo 4 d.year ++ '-' :: (Decimal.pad2 d.month ++ '-' :: (Decimal.pad2 d.day ++
        'T' :: (Decimal.pad2 d.hour ++ ':' :: (Decimal.pad2 d.minute ++
          ':' :: (Decimal.pad2 d.second ++
            ((if d.micro = 0 then [] else '.' :: Decimal.padTo 6 d.micro) ++ r)))))) := by
  simp only [writeClock, List.append_assoc, List.cons_append]

/-- A written date is read as a date with a time of day. -/
lemma readFull?_write {d : DateTime} (h : d.Valid) (hwire : d.OnWire) :
    readFull? d.write = some d := by
  have hdate := readDate?_written h.year_le ⟨h.month_pos, h.month_le⟩ ⟨h.day_pos, h.day_le⟩
  have hclock : d.hour ≤ 23 ∧ d.minute ≤ 59 := ⟨h.hour_le, h.minute_le⟩
  have hhour := h.hour_le
  have hminute := h.minute_le
  rw [write, writeClock_append, readFull?, hdate]
  simp only [Option.bind_eq_bind, Option.bind_some, isSeparator, decide_true, Bool.true_or, if_true,
    readTwo?_pad2 (show d.hour < 100 by omega), readTwo?_pad2 (show d.minute < 100 by omega),
    dropChar?, hclock, and_self, readSeconds?_written h.second_le h.micro_lt,
    readOffset?_writeZone h hwire]

/-- Reading a written date gives the date back. -/
theorem ofText_write {d : DateTime} (h : d.Valid) (hwire : d.OnWire) : ofText d.write = .ok d := by
  have hyear : d.year ≠ 0 := by
    have hpos := h.year_pos
    omega
  rw [ofText, readFull?_write h hwire]
  exact if_neg hyear

end DateTime

end MeshAgent
