import Mathlib.Algebra.Group.Nat.Defs
import Mathlib.Data.Finset.Card
import Mathlib.Data.Fintype.Card
import MeshAgent.Proofs.Key.Written
import MeshAgent.Wire.Field

/-!
# How bytes are spelled

A character of the alphabet stands for six bits, a byte for eight. A text spells the whole bytes in the
bits of its characters; the bits that make no whole byte are free, and the padding only has to complete
the last quad. Reading keeps the bits of the bytes and the spare ones together equal to the bits of the
characters that have been taken.
-/
namespace MeshAgent

namespace Base64

/-- The characters in the order of their numbers. -/
def alphabet : List Char :=
  "ABCDEFGHIJKLMNOPQRSTUVWXYZabcdefghijklmnopqrstuvwxyz0123456789+/".toList

/-- The low `width` bits of a number, highest first. -/
def bits : Nat → Nat → List Bool
  | 0, _ => []
  | width + 1, n => n.testBit width :: bits width n

def dataBits (data : List Char) : List Bool := data.flatMap fun c => bits 6 (alphabet.idxOf c)

def byteBits (bs : Bytes) : List Bool := bs.flatMap fun b => bits 8 b.toNat

/-- How many padding signs may follow `count` characters. Behind full quads there may be any number. -/
def Padding (count pads : Nat) : Prop :=
  count % 4 = 0 ∧ (pads = 0 ∨ 0 < count) ∨ count % 4 = 2 ∧ pads = 2 ∨ count % 4 = 3 ∧ pads = 1

/-- A text is a run of characters of the alphabet with its padding. -/
structure Form (text : String) (data : List Char) (pads : Nat) : Prop where
  toList : text.toList = data ++ List.replicate pads '='
  mem : ∀ c ∈ data, c ∈ alphabet
  padding : Padding data.length pads

/-- The bytes are the whole ones in the bits of the characters. -/
def Spells (text : String) (bs : Bytes) : Prop :=
  ∃ data pads, Form text data pads ∧
    byteBits bs = (dataBits data).take (8 * (6 * data.length / 8))

section Bits

variable {width a b c d m n : Nat}

@[simp] lemma length_bits : (bits width n).length = width := by
  induction width with
  | zero => rfl
  | succ width ih => rw [bits, List.length_cons, ih]

lemma bits_eq_iff : bits width m = bits width n ↔ ∀ i < width, m.testBit i = n.testBit i := by
  induction width with
  | zero => simp [bits]
  | succ width ih =>
    rw [bits, bits, List.cons.injEq, ih, Nat.forall_lt_succ_right, and_comm]

lemma bits_inj (hm : m < 2 ^ width) (hn : n < 2 ^ width) (h : bits width m = bits width n) :
    m = n := by
  rw [bits_eq_iff] at h
  refine Nat.eq_of_testBit_eq fun i => ?_
  by_cases hi : i < width
  · exact h i hi
  · have hpow : 2 ^ width ≤ 2 ^ i := Nat.pow_le_pow_right (by omega) (by omega)
    rw [Nat.testBit_lt_two_pow (by omega), Nat.testBit_lt_two_pow (by omega)]

lemma bits_mod : bits width (n % 2 ^ width) = bits width n := by
  rw [bits_eq_iff]
  intro i hi
  rw [Nat.testBit_mod_two_pow, decide_eq_true hi, Bool.true_and]

lemma bits_congr (h : m % 2 ^ width = n % 2 ^ width) : bits width m = bits width n := by
  rw [← bits_mod (n := m), h, bits_mod]

lemma bits_add : bits (a + b) n = bits a (n / 2 ^ b) ++ bits b n := by
  induction a with
  | zero => rw [Nat.zero_add, bits, List.nil_append]
  | succ a ih =>
    rw [Nat.add_right_comm, bits, bits, ih, Nat.testBit_div_two_pow, List.cons_append]

/-- The bits of two numbers, cut at another place. -/
lemma bits_append (hwidth : a + b = c + d) (hn : n < 2 ^ b) :
    bits a m ++ bits b n =
      bits c ((m * 2 ^ b + n) / 2 ^ d) ++ bits d (m * 2 ^ b + n) := by
  have hhigh : (m * 2 ^ b + n) / 2 ^ b = m := by
    rw [Nat.mul_comm, Nat.mul_add_div (Nat.two_pow_pos b), Nat.div_eq_of_lt hn, Nat.add_zero]
  have hlow : bits b n = bits b (m * 2 ^ b + n) := by
    rw [← bits_mod (n := m * 2 ^ b + n), Nat.mul_comm, Nat.mul_add_mod, Nat.mod_eq_of_lt hn]
  rw [hlow, ← bits_add, ← hwidth, bits_add, hhigh]

lemma exists_bits (l : List Bool) : ∃ n < 2 ^ l.length, bits l.length n = l := by
  induction l with
  | nil => exact ⟨0, by decide, rfl⟩
  | cons x l ih =>
    obtain ⟨n, hn, hl⟩ := ih
    have hbit : bits 1 x.toNat = [x] := by cases x <;> rfl
    have hx : x.toNat < 2 := x.toNat_lt
    refine ⟨x.toNat * 2 ^ l.length + n, ?_, ?_⟩
    · have hmul : x.toNat * 2 ^ l.length ≤ 1 * 2 ^ l.length := Nat.mul_le_mul_right _ (by omega)
      rw [List.length_cons, Nat.pow_succ]
      omega
    · have hcut := bits_append (a := 1) (m := x.toNat) (c := 0) (d := l.length + 1)
        (by omega) hn
      rw [List.length_cons, ← List.nil_append (bits _ _)]
      exact hcut.symm.trans (by rw [hbit, hl]; rfl)

lemma bits_ofNat : bits 8 (UInt8.ofNat n).toNat = bits 8 n := by
  rw [UInt8.toNat_ofNat']
  exact bits_mod

lemma byteBits_append_ofNat (bs : Bytes) :
    byteBits (bs ++ [UInt8.ofNat n]) = byteBits bs ++ bits 8 n := by
  rw [byteBits, List.flatMap_append, List.flatMap_singleton, bits_ofNat, byteBits]

end Bits

/-- Items that are written with the same width are read off what they are written to. -/
lemma flatMap_inj {α : Type} {f : α → List Bool} {width : Nat} (hpos : 0 < width)
    (hwidth : ∀ x, (f x).length = width) {l l' : List α}
    (hinj : ∀ x ∈ l, ∀ y ∈ l', f x = f y → x = y) (h : l.flatMap f = l'.flatMap f) : l = l' := by
  induction l generalizing l' with
  | nil =>
    cases l' with
    | nil => rfl
    | cons y l' =>
      have hlength := congrArg List.length h
      rw [List.flatMap_nil, List.flatMap_cons, List.length_append, hwidth, List.length_nil] at hlength
      omega
  | cons x l ih =>
    cases l' with
    | nil =>
      have hlength := congrArg List.length h
      rw [List.flatMap_nil, List.flatMap_cons, List.length_append, hwidth, List.length_nil] at hlength
      omega
    | cons y l' =>
      rw [List.flatMap_cons, List.flatMap_cons] at h
      obtain ⟨hhead, htail⟩ := List.append_inj h (by rw [hwidth, hwidth])
      rw [hinj x List.mem_cons_self y List.mem_cons_self hhead,
        ih (fun x hx y hy => hinj x (List.mem_cons_of_mem _ hx) y (List.mem_cons_of_mem _ hy)) htail]

lemma byteBits_inj {bs bs' : Bytes} (h : byteBits bs = byteBits bs') : bs = bs' := by
  refine flatMap_inj (by decide : 0 < 8) (fun _ => length_bits) (fun x _ y _ hxy => ?_) h
  exact UInt8.toNat_inj.mp (bits_inj x.toNat_lt y.toNat_lt hxy)

@[simp] lemma length_byteBits (bs : Bytes) : (byteBits bs).length = 8 * bs.length := by
  simp [byteBits, List.length_flatMap, Nat.mul_comm]

@[simp] lemma length_dataBits (data : List Char) : (dataBits data).length = 6 * data.length := by
  simp [dataBits, List.length_flatMap, Nat.mul_comm]

lemma alphabet_spec {c : Char} (h : c ∈ alphabet) :
    valueOf? c = some (alphabet.idxOf c) ∧ alphabet.idxOf c < 64 ∧ c ≠ '=' ∧ c.toNat < 128 := by
  -- a quantifier would be decided over all characters
  have hall : alphabet.all fun c => valueOf? c = some (alphabet.idxOf c) ∧ alphabet.idxOf c < 64 ∧
      c ≠ '=' ∧ c.toNat < 128 := by decide +kernel
  exact of_decide_eq_true (List.all_eq_true.mp hall c h)

lemma charOf_alphabet {v : Nat} (h : v < 64) :
    charOf v ∈ alphabet ∧ alphabet.idxOf (charOf v) = v := by
  have hall : ∀ k : Fin 64, charOf k ∈ alphabet ∧ alphabet.idxOf (charOf k) = k := by decide +kernel
  exact hall ⟨v, h⟩

lemma mem_alphabet_of_valueOf? {c : Char} {v : Nat} (h : valueOf? c = some v) : c ∈ alphabet := by
  have hself : Char.ofNat c.toNat = c := Char.ofNat_toNat c
  have hchar : v < 64 ∧ charOf v = c := by
    simp only [valueOf?] at h
    split_ifs at h with hupper hlower hdigit hplus hslash
    all_goals obtain rfl := Option.some.inj h
    · rw [charOf, if_pos (by omega), Nat.add_sub_cancel' hupper.1]
      exact ⟨by omega, hself⟩
    · rw [charOf, if_neg (by omega), if_pos (by omega), show 71 + (c.toNat - 71) = c.toNat by omega]
      exact ⟨by omega, hself⟩
    · rw [charOf, if_neg (by omega), if_neg (by omega), if_pos (by omega), Nat.add_sub_cancel]
      exact ⟨by omega, hself⟩
    · exact ⟨by decide, hplus ▸ rfl⟩
    · exact ⟨by decide, hslash ▸ rfl⟩
  exact hchar.2 ▸ (charOf_alphabet hchar.1).1

section Reading

variable {s : Scan} {data : List Char} {bs : Bytes}

/-- The reader has taken `data` and no padding. -/
structure Scan.After (s : Scan) (data : List Char) : Prop where
  count : s.count = data.length
  pads : s.pads = 0
  padded : s.padded = false
  kept : byteBits s.out.reverse ++ bits (6 * s.count % 8) s.spare = dataBits data

lemma Scan.after_nil : ({} : Scan).After [] := ⟨rfl, rfl, rfl, rfl⟩

/-- A character that completes a byte and leaves `low` of its bits over. -/
lemma kept_push {out : Bytes} {spare v spare' byte free low : Nat}
    (hkept : byteBits out.reverse ++ bits free spare = dataBits data) (hv : v < 64)
    (hwidth : free + 6 = 8 + low) (hbyte : byte = (spare * 64 + v) / 2 ^ low)
    (hspare : spare' % 2 ^ low = (spare * 64 + v) % 2 ^ low) :
    byteBits (UInt8.ofNat byte :: out).reverse ++ bits low spare' = dataBits data ++ bits 6 v := by
  have hcut : bits free spare ++ bits 6 v = bits 8 byte ++ bits low spare' := by
    rw [bits_congr hspare, hbyte]
    exact bits_append hwidth hv
  rw [List.reverse_cons, byteBits_append_ofNat, List.append_assoc, ← hcut, ← List.append_assoc, hkept]

lemma Scan.After.push (h : s.After data) {c : Char} (hc : c ∈ alphabet) :
    (s.push (alphabet.idxOf c)).After (data ++ [c]) := by
  obtain ⟨count, spare, pads, padded, out⟩ := s
  obtain ⟨rfl, rfl, rfl, hkept⟩ := h
  have hv := (alphabet_spec hc).2.1
  have hmore : dataBits (data ++ [c]) = dataBits data ++ bits 6 (alphabet.idxOf c) := by
    simp [dataBits]
  have hlength : data.length + 1 = (data ++ [c]).length := by simp
  generalize alphabet.idxOf c = v at hv hmore ⊢
  dsimp only at hkept
  have hposition : data.length % 4 = 0 ∨ data.length % 4 = 1 ∨ data.length % 4 = 2 ∨
      data.length % 4 = 3 := by omega
  rcases hposition with hp | hp | hp | hp
  · have hfree : 6 * data.length % 8 = 0 := by omega
    have hleft : 6 * (data.length + 1) % 8 = 6 := by omega
    rw [hfree, bits, List.append_nil] at hkept
    rw [push_first hp]
    refine ⟨hlength, rfl, rfl, ?_⟩
    rw [hleft, hmore, ← hkept]
  · have hfree : 6 * data.length % 8 = 6 := by omega
    have hleft : 6 * (data.length + 1) % 8 = 4 := by omega
    rw [hfree] at hkept
    rw [push_second hp]
    refine ⟨hlength, rfl, rfl, ?_⟩
    rw [hleft, hmore]
    exact kept_push hkept hv rfl (by omega) (by dsimp only; omega)
  · have hfree : 6 * data.length % 8 = 4 := by omega
    have hleft : 6 * (data.length + 1) % 8 = 2 := by omega
    rw [hfree] at hkept
    rw [push_third hp]
    refine ⟨hlength, rfl, rfl, ?_⟩
    rw [hleft, hmore]
    exact kept_push hkept hv rfl (by omega) (by dsimp only; omega)
  · have hfree : 6 * data.length % 8 = 2 := by omega
    have hleft : 6 * (data.length + 1) % 8 = 0 := by omega
    rw [hfree] at hkept
    rw [push_fourth hp]
    refine ⟨hlength, rfl, rfl, ?_⟩
    rw [hleft, hmore]
    exact kept_push hkept hv rfl (by omega) (by dsimp only; omega)

lemma Scan.After.run_data (h : s.After data) {more : List Char} (hmore : ∀ c ∈ more, c ∈ alphabet) :
    ∃ s' : Scan, s'.After (data ++ more) ∧ ∀ rest, s.run (more ++ rest) = s'.run rest := by
  induction more generalizing s data with
  | nil => exact ⟨s, by rwa [List.append_nil], fun _ => rfl⟩
  | cons c more ih =>
    have hc := hmore c List.mem_cons_self
    obtain ⟨hvalue, -, hne, -⟩ := alphabet_spec hc
    obtain ⟨s', hafter, hrun⟩ := ih (h.push hc) fun c hc => hmore c (List.mem_cons_of_mem _ hc)
    refine ⟨s', by simpa using hafter, fun rest => ?_⟩
    rw [List.cons_append, Scan.run, if_neg hne, hvalue, ← hrun rest]
    simp only [h.padded, Bool.false_eq_true, if_false]

lemma finish_eq_ok_iff : s.finish = .ok bs ↔ s.position = 0 ∧ bs = s.out.reverse := by
  rw [Scan.finish]
  split
  · simp_all [eq_comm]
  · rename_i hone
    simp [hone]
  · rename_i hzero _
    simpa using fun h => absurd h hzero

/-- Padding is passed over behind full quads and completes a quad that has two or three characters. -/
lemma run_pads_eq_ok_iff (hopen : 2 ≤ s.position → s.position + s.pads < 4) {pads : Nat} :
    s.run (List.replicate pads '=') = .ok bs ↔
      (s.position = 0 ∨ 2 ≤ s.position ∧ s.position + s.pads + pads = 4) ∧ bs = s.out.reverse := by
  induction pads generalizing s with
  | zero =>
    rw [List.replicate_zero, Scan.run, finish_eq_ok_iff]
    have hnone : ¬ (2 ≤ s.position ∧ s.position + s.pads + 0 = 4) := by omega
    rw [or_iff_left hnone]
  | succ pads ih =>
    rw [List.replicate_succ, Scan.run, if_pos rfl]
    dsimp only
    by_cases hlast : 2 ≤ s.position ∧ 4 ≤ s.position + (s.pads + 1)
    · rw [if_pos hlast]
      cases pads with
      | zero =>
        have hfull : s.position = 0 ∨ 2 ≤ s.position ∧ s.position + s.pads + 1 = 4 := by omega
        simp only [List.replicate_zero, List.isEmpty_nil, if_true, Except.ok.injEq, Nat.zero_add,
          hfull, true_and]
        exact eq_comm
      | succ pads =>
        have hnot : ¬ (s.position = 0 ∨ 2 ≤ s.position ∧ s.position + s.pads + (pads + 1 + 1) = 4) := by
          omega
        simp [hnot, List.replicate_succ]
    · rw [if_neg hlast, ih (s := { s with pads := s.pads + 1, padded := true }) fun htwo =>
        Nat.not_le.mp fun hfour => hlast ⟨htwo, hfour⟩]
      have hshift : s.position + (s.pads + 1) + pads = s.position + s.pads + (pads + 1) := by omega
      exact Iff.of_eq (by rw [← hshift]; rfl)

lemma run_pads_of_after (h : s.After data) {pads : Nat} :
    s.run (List.replicate pads '=') = .ok bs ↔
      (data.length % 4 = 0 ∨ data.length % 4 = 2 ∧ pads = 2 ∨ data.length % 4 = 3 ∧ pads = 1) ∧
        bs = s.out.reverse := by
  have hposition : s.position = data.length % 4 := by rw [Scan.position, h.count]
  have hpads := h.pads
  rw [run_pads_eq_ok_iff (by omega)]
  refine and_congr_left fun _ => ?_
  omega

/-- A text that is read to its end is a run of characters and padding. -/
lemma shape_of_run {rest : List Char} (h : s.run rest = .ok bs) :
    ∃ data pads, rest = data ++ List.replicate pads '=' ∧ (∀ c ∈ data, c ∈ alphabet) ∧
      (s.padded = true → data = []) := by
  induction rest generalizing s with
  | nil => exact ⟨[], 0, rfl, by simp, fun _ => rfl⟩
  | cons c rest ih =>
    rw [Scan.run] at h
    by_cases hc : c = '='
    · rw [if_pos hc] at h
      dsimp only at h
      split_ifs at h with hlast hempty
      · rw [List.isEmpty_iff] at hempty
        exact ⟨[], 1, by rw [hc, hempty]; rfl, by simp, fun _ => rfl⟩
      · obtain ⟨data, pads, hrest, -, hnil⟩ := ih h
        rw [hnil rfl] at hrest
        exact ⟨[], pads + 1, by rw [hc, hrest]; rfl, by simp, fun _ => rfl⟩
    · rw [if_neg hc] at h
      cases hvalue : valueOf? c with
      | none => simp [hvalue] at h
      | some v =>
        simp only [hvalue] at h
        split_ifs at h with hpadded
        obtain ⟨data, pads, hrest, hdata, -⟩ := ih h
        refine ⟨c :: data, pads, by rw [hrest]; rfl, ?_, fun hyes => absurd hyes hpadded⟩
        exact List.forall_mem_cons.mpr ⟨mem_alphabet_of_valueOf? hvalue, hdata⟩

/-- The bytes that have been read are the whole ones in the bits of the characters. -/
lemma Scan.After.byteBits_eq (h : s.After data) :
    byteBits s.out.reverse = (dataBits data).take (8 * (6 * data.length / 8)) := by
  have hlength := congrArg List.length h.kept
  rw [List.length_append, length_bits, length_byteBits, length_dataBits, h.count] at hlength
  have hwhole : 8 * (6 * data.length / 8) = (byteBits s.out.reverse).length := by
    rw [length_byteBits]
    omega
  rw [← h.kept, hwhole, List.take_left]

end Reading

lemma decodeList_eq_ok {cs : List Char} {bs : Bytes} :
    decodeList cs = .ok bs ↔
      (∀ c ∈ cs, c.toNat < 128) ∧ cs.head? ≠ some '=' ∧ ({} : Scan).run cs = .ok bs := by
  rw [decodeList]
  by_cases hascii : ∀ c ∈ cs, c.toNat < 128
  · have hany : cs.any (fun c => 128 ≤ c.toNat) = false := by
      rw [List.any_eq_false]
      exact fun c hc => by simpa using hascii c hc
    by_cases hhead : cs.head? = some '='
    · simp [hany, hhead]
    · simpa [hany, hhead] using fun _ => hascii
  · have hany : cs.any (fun c => 128 ≤ c.toNat) = true := by simpa using hascii
    simp [hany, hascii]

/-- Decoding is exact. -/
lemma decode_eq_ok_iff {text : String} {bs : Bytes} : decode text = .ok bs ↔ Spells text bs := by
  rw [decode, decodeList_eq_ok]
  constructor
  · rintro ⟨-, hhead, hrun⟩
    obtain ⟨data, pads, htext, hdata, -⟩ := shape_of_run hrun
    obtain ⟨s, hafter, hdataRun⟩ := Scan.after_nil.run_data hdata
    rw [List.nil_append] at hafter
    rw [htext, hdataRun, run_pads_of_after hafter] at hrun
    obtain ⟨hpads, rfl⟩ := hrun
    refine ⟨data, pads, ⟨htext, hdata, ?_⟩, hafter.byteBits_eq⟩
    have hlead : pads = 0 ∨ 0 < data.length := by
      rw [htext] at hhead
      rcases data with _ | ⟨c, data⟩
      · cases pads with
        | zero => exact .inl rfl
        | succ pads => exact absurd rfl hhead
      · exact .inr (Nat.succ_pos _)
    rw [Padding]
    omega
  · rintro ⟨data, pads, ⟨htext, hdata, hpads⟩, hbits⟩
    obtain ⟨s, hafter, hdataRun⟩ := Scan.after_nil.run_data hdata
    rw [List.nil_append] at hafter
    rw [Padding] at hpads
    refine ⟨?_, ?_, ?_⟩
    · rw [htext]
      intro c hc
      rcases List.mem_append.mp hc with hc | hc
      · exact (alphabet_spec (hdata c hc)).2.2.2
      · rw [List.eq_of_mem_replicate hc]
        decide
    · rw [htext]
      rcases data with _ | ⟨c, data⟩
      · obtain rfl : pads = 0 := by simpa using hpads
        simp
      · have hne := (alphabet_spec (hdata c List.mem_cons_self)).2.2.1
        simpa using hne
    · rw [htext, hdataRun, run_pads_of_after hafter]
      exact ⟨by omega, byteBits_inj (hbits.trans hafter.byteBits_eq.symm)⟩

lemma dataBits_inj {data data' : List Char} (hdata : ∀ c ∈ data, c ∈ alphabet)
    (hdata' : ∀ c ∈ data', c ∈ alphabet) (h : dataBits data = dataBits data') : data = data' := by
  refine flatMap_inj (by decide : 0 < 6) (fun _ => length_bits) (fun x hx y hy hxy => ?_) h
  have hindex := bits_inj (alphabet_spec (hdata x hx)).2.1 (alphabet_spec (hdata' y hy)).2.1 hxy
  exact (List.idxOf_inj (hdata x hx)).mp hindex

/-- Every run of six-bit groups is that of some characters. -/
lemma exists_data (count : Nat) {l : List Bool} (hl : l.length = 6 * count) :
    ∃ data, (∀ c ∈ data, c ∈ alphabet) ∧ data.length = count ∧ dataBits data = l := by
  induction count generalizing l with
  | zero =>
    obtain rfl := List.length_eq_zero_iff.mp hl
    exact ⟨[], by simp, rfl, rfl⟩
  | succ count ih =>
    have hhead : (l.take 6).length = 6 := by
      rw [List.length_take]
      omega
    have htail : (l.drop 6).length = 6 * count := by
      rw [List.length_drop]
      omega
    obtain ⟨data, hdata, hlength, hbits⟩ := ih htail
    obtain ⟨v, hv, hvbits⟩ := exists_bits (l.take 6)
    rw [hhead] at hv hvbits
    obtain ⟨hmem, hindex⟩ := charOf_alphabet hv
    refine ⟨charOf v :: data, List.forall_mem_cons.mpr ⟨hmem, hdata⟩, by simp [hlength], ?_⟩
    rw [dataBits, List.flatMap_cons, hindex, hvbits, ← dataBits, hbits, List.take_append_drop]

lemma exists_bytes {data : List Char} (hdata : ∀ c ∈ data, c ∈ alphabet) :
    ∃ bs, byteBits bs = (dataBits data).take (8 * (6 * data.length / 8)) := by
  obtain ⟨s, hafter, -⟩ := Scan.after_nil.run_data hdata
  exact ⟨s.out.reverse, hafter.byteBits_eq⟩

end Base64

namespace Field

lemma base64_text_eq_ok_iff {text : String} {bs : Bytes} :
    base64 (.text text) = .ok bs ↔ Base64.Spells text bs := by
  rw [← Base64.decode_eq_ok_iff, base64]
  cases Base64.decode text <;> simp [Checked.wrong]

end Field

namespace Key

open Base64

/-- The shape of the text of a key: no bits of its characters make a byte more or less. -/
def Shape (text : String) : Prop :=
  ∃ data, data.length = 43 ∧ (∀ c ∈ data, c ∈ alphabet) ∧ text.toList = data ++ ['=']

variable {text : String} {key : Bytes}

lemma parse_eq_ok_iff : parse text = .ok key ↔ decode text = .ok key ∧ key.length = size := by
  rw [parse]
  cases hdecode : decode text with
  | error refusal => simp
  | ok bs =>
    by_cases hbs : bs.length = size
    · simp only [if_pos hbs, Except.ok.injEq]
      exact ⟨fun h => ⟨h, h ▸ hbs⟩, And.left⟩
    · simp only [if_neg hbs, reduceCtorEq, Except.ok.injEq, false_iff]
      rintro ⟨rfl, hkey⟩
      exact hbs hkey

lemma parse_error (h : ∀ key, parse text ≠ .ok key) :
    ∃ e, parse text = .error e ∧ e.kind = .parse := by
  rw [parse] at h ⊢
  cases hdecode : decode text with
  | error refusal => exact ⟨_, rfl, rfl⟩
  | ok bs =>
    by_cases hbs : bs.length = size
    · simp only [hdecode, if_pos hbs] at h
      exact absurd rfl (h bs)
    · exact ⟨_, if_neg hbs, rfl⟩

/-- A text is that of a key if its characters hold the bits of the key and two more. -/
lemma parse_eq_ok_iff_bits : parse text = .ok key ↔
    key.length = size ∧ ∃ data, data.length = 43 ∧ (∀ c ∈ data, c ∈ alphabet) ∧
      text.toList = data ++ ['='] ∧ byteBits key = (dataBits data).take 256 := by
  rw [parse_eq_ok_iff, decode_eq_ok_iff]
  constructor
  · rintro ⟨⟨data, pads, ⟨htext, hdata, hpads⟩, hbits⟩, hkey⟩
    have hlength := congrArg List.length hbits
    rw [length_byteBits, List.length_take, length_dataBits, hkey, size] at hlength
    rw [Padding] at hpads
    obtain ⟨hcount, rfl⟩ : data.length = 43 ∧ pads = 1 := by omega
    rw [hcount] at hbits
    exact ⟨hkey, data, hcount, hdata, htext, hbits⟩
  · rintro ⟨hkey, data, hcount, hdata, htext, hbits⟩
    refine ⟨⟨data, 1, ⟨htext, hdata, ?_⟩, ?_⟩, hkey⟩
    · rw [Padding]
      omega
    · rw [hcount]
      exact hbits

lemma parse_isOk_iff_shape : (∃ key, parse text = .ok key) ↔ Shape text := by
  constructor
  · rintro ⟨key, h⟩
    obtain ⟨-, data, hcount, hdata, htext, -⟩ := parse_eq_ok_iff_bits.mp h
    exact ⟨data, hcount, hdata, htext⟩
  · rintro ⟨data, hcount, hdata, htext⟩
    obtain ⟨key, hbits⟩ := exists_bytes hdata
    rw [hcount] at hbits
    have hlength := congrArg List.length hbits
    rw [length_byteBits, List.length_take, length_dataBits, hcount] at hlength
    exact ⟨key, parse_eq_ok_iff_bits.mpr ⟨by rw [size]; omega, data, hcount, hdata, htext, hbits⟩⟩

/-- The two bits behind the last byte of a key are free. -/
lemma exists_texts (hkey : key.length = size) : ∃ texts : Finset String, texts.card = 4 ∧
    ∀ text, parse text = .ok key ↔ text ∈ texts := by
  have hspelled (r : Fin 4) := exists_data 43 (l := byteBits key ++ bits 2 r) (by
    rw [List.length_append, length_byteBits, length_bits, hkey, size])
  choose data hdata hcount hbits using hspelled
  have htake (r : Fin 4) : byteBits key = (dataBits (data r)).take 256 := by
    rw [hbits, List.take_left' (by rw [length_byteBits, hkey, size])]
  let spelled (r : Fin 4) : String := String.ofList (data r ++ ['='])
  have hinj : Function.Injective spelled := by
    intro r r' h
    have hsame : data r = data r' := List.append_cancel_right (String.ofList_injective h)
    have htails := List.append_cancel_left ((hbits r).symm.trans ((congrArg dataBits hsame).trans
      (hbits r')))
    exact Fin.ext (bits_inj r.isLt r'.isLt htails)
  refine ⟨Finset.univ.image spelled, ?_, fun text => ?_⟩
  · rw [Finset.card_image_of_injective _ hinj, Finset.card_univ, Fintype.card_fin]
  · rw [Finset.mem_image, parse_eq_ok_iff_bits]
    constructor
    · rintro ⟨-, own, hown, hmem, htext, hkeyBits⟩
      obtain ⟨r, hr, hlast⟩ := exists_bits ((dataBits own).drop 256)
      have htwo : ((dataBits own).drop 256).length = 2 := by
        rw [List.length_drop, length_dataBits, hown]
      rw [htwo] at hr hlast
      have hsame : data ⟨r, hr⟩ = own := dataBits_inj (hdata _) hmem (by
        rw [hbits, hkeyBits, hlast, List.take_append_drop])
      refine ⟨⟨r, hr⟩, Finset.mem_univ _, ?_⟩
      change String.ofList (data ⟨r, hr⟩ ++ ['=']) = text
      rw [hsame, ← htext, String.ofList_toList]
    · rintro ⟨r, -, rfl⟩
      exact ⟨hkey, data r, hcount r, hdata r, String.toList_ofList, htake r⟩

/-- What is known of the texts of keys and of wire bytes. -/
structure ReadExactly : Prop where
  accepts : ∀ text, (∃ bs, decode text = .ok bs) ↔ ∃ data pads, Form text data pads
  /-- What is decoded is spelled by the text. -/
  decodes : ∀ text bs, decode text = .ok bs ↔ Spells text bs
  /-- A wire field takes exactly the texts that are decoded. -/
  fields : ∀ text bs, Field.base64 (.text text) = .ok bs ↔ Spells text bs
  inverse : ∀ bs, decode (format bs) = .ok bs
  /-- A key is what is decoded to 32 bytes. -/
  keys : ∀ text key, parse text = .ok key ↔ Spells text key ∧ key.length = 32
  shapes : ∀ text, (∃ key, parse text = .ok key) ↔ Shape text
  refuses : ∀ text, ¬ Shape text ↔ ∃ e, parse text = .error e ∧ e.kind = .parse
  /-- Each key has four texts, and one of them is the one it is written as. -/
  texts : ∀ key : Bytes, key.length = 32 → ∃ texts : Finset String, texts.card = 4 ∧
    (∀ text, parse text = .ok key ↔ text ∈ texts) ∧ (texts.filter (· = format key)).card = 1

theorem read_exactly : ReadExactly where
  accepts text := by
    simp only [decode_eq_ok_iff]
    constructor
    · rintro ⟨bs, data, pads, hform, -⟩
      exact ⟨data, pads, hform⟩
    · rintro ⟨data, pads, hform⟩
      obtain ⟨bs, hbits⟩ := exists_bytes hform.mem
      exact ⟨bs, data, pads, hform, hbits⟩
  decodes _ _ := decode_eq_ok_iff
  fields _ _ := Field.base64_text_eq_ok_iff
  inverse := decode_encode
  keys _ _ := by rw [parse_eq_ok_iff, decode_eq_ok_iff, size]
  shapes _ := parse_isOk_iff_shape
  refuses text := by
    rw [← parse_isOk_iff_shape]
    constructor
    · exact fun h => parse_error (not_exists.mp h)
    · rintro ⟨e, he, -⟩ ⟨key, hkey⟩
      simp [he] at hkey
  texts key hkey := by
    obtain ⟨texts, hcard, hmem⟩ := exists_texts hkey
    refine ⟨texts, hcard, hmem, Finset.card_eq_one.mpr ⟨format key, ?_⟩⟩
    have hformat : format key ∈ texts := (hmem _).mp (parse_format hkey)
    rw [Finset.filter_eq', if_pos hformat]

end Key

end MeshAgent
