import Mathlib.Tactic.Lemma
import MeshAgent.Key

/-!
# Written keys are read back

Base64 text is read in quads. Each full quad makes three bytes and leaves nothing behind, so that the
induction is on the bytes, three at a time; a shorter rest is padded to a quad, which ends the text.
-/
namespace MeshAgent

namespace Base64

lemma charOf_spec {v : Nat} (h : v < 64) :
    valueOf? (charOf v) = some v ∧ charOf v ≠ '=' ∧ (charOf v).toNat < 128 := by
  have hall : ∀ k : Fin 64,
      valueOf? (charOf k) = some k.val ∧ charOf k ≠ '=' ∧ (charOf k).toNat < 128 := by decide
  exact hall ⟨v, h⟩

lemma run_charOf {s : Scan} (hs : s.padded = false) {v : Nat} (h : v < 64) (r : List Char) :
    s.run (charOf v :: r) = (s.push v).run r := by
  obtain ⟨hvalue, hne, -⟩ := charOf_spec h
  rw [Scan.run, if_neg hne, hvalue]
  simp only [hs, Bool.false_eq_true, if_false]

/-- The first character of a quad makes no byte yet. -/
lemma push_first {n spare pads : Nat} {padded : Bool} {out : Bytes} (h : n % 4 = 0) (v : Nat) :
    Scan.push ⟨n, spare, pads, padded, out⟩ v = ⟨n + 1, v, 0, padded, out⟩ := by
  simp [Scan.push, Scan.position, h]

lemma push_second {n spare pads : Nat} {padded : Bool} {out : Bytes} (h : n % 4 = 1) (v : Nat) :
    Scan.push ⟨n, spare, pads, padded, out⟩ v =
      ⟨n + 1, v % 16, 0, padded, UInt8.ofNat (spare * 4 + v / 16) :: out⟩ := by
  simp [Scan.push, Scan.position, h]

lemma push_third {n spare pads : Nat} {padded : Bool} {out : Bytes} (h : n % 4 = 2) (v : Nat) :
    Scan.push ⟨n, spare, pads, padded, out⟩ v =
      ⟨n + 1, v % 4, 0, padded, UInt8.ofNat (spare * 16 + v / 4) :: out⟩ := by
  simp [Scan.push, Scan.position, h]

lemma push_fourth {n spare pads : Nat} {padded : Bool} {out : Bytes} (h : n % 4 = 3) (v : Nat) :
    Scan.push ⟨n, spare, pads, padded, out⟩ v =
      ⟨n + 1, 0, 0, padded, UInt8.ofNat (spare * 64 + v) :: out⟩ := by
  simp [Scan.push, Scan.position, h]

lemma ofNat_eq {a : UInt8} {n : Nat} (h : n = a.toNat) : UInt8.ofNat n = a := by
  rw [h, UInt8.ofNat_toNat]

/-- Two characters hold one byte and the high half of the next one. -/
lemma run_pair {n spare pads : Nat} {out : Bytes} (h : n % 4 = 0) (a : UInt8) {v : Nat}
    (hv : v < 16) (r : List Char) :
    Scan.run ⟨n, spare, pads, false, out⟩
        (charOf (a.toNat / 4) :: charOf (a.toNat % 4 * 16 + v) :: r) =
      Scan.run ⟨n + 2, v, 0, false, a :: out⟩ r := by
  have ha := a.toNat_lt
  have hbyte : a.toNat / 4 * 4 + (a.toNat % 4 * 16 + v) / 16 = a.toNat := by omega
  have hspare : (a.toNat % 4 * 16 + v) % 16 = v := by omega
  rw [run_charOf rfl (by omega), push_first h, run_charOf rfl (by omega), push_second (by omega),
    ofNat_eq hbyte, hspare]

/-- With a third character there are two bytes and the high quarter of the next one. -/
lemma run_triple {n spare pads : Nat} {out : Bytes} (h : n % 4 = 0) (a b : UInt8) {v : Nat}
    (hv : v < 4) (r : List Char) :
    Scan.run ⟨n, spare, pads, false, out⟩
        (charOf (a.toNat / 4) :: charOf (a.toNat % 4 * 16 + b.toNat / 16) ::
          charOf (b.toNat % 16 * 4 + v) :: r) =
      Scan.run ⟨n + 3, v, 0, false, b :: a :: out⟩ r := by
  have hb := b.toNat_lt
  have hbyte : b.toNat / 16 * 16 + (b.toNat % 16 * 4 + v) / 4 = b.toNat := by omega
  have hspare : (b.toNat % 16 * 4 + v) % 4 = v := by omega
  rw [run_pair h a (by omega), run_charOf rfl (by omega), push_third (by omega), ofNat_eq hbyte,
    hspare]

/-- Between two quads nothing is left over. -/
lemma run_encodeList (bs : Bytes) {n spare pads : Nat} {out : Bytes} (h : n % 4 = 0) :
    Scan.run ⟨n, spare, pads, false, out⟩ (encodeList bs) = .ok (out.reverse ++ bs) := by
  induction bs using encodeList.induct generalizing n spare pads out with
  | case1 => simp [encodeList, Scan.run, Scan.finish, Scan.position, h]
  | case2 a =>
    have hpair := @run_pair n spare pads out h a 0 (by omega) ['=', '=']
    have hpos : (n + 2) % 4 = 2 := by omega
    rw [encodeList, ← Nat.add_zero (a.toNat % 4 * 16), hpair]
    simp [Scan.run, Scan.position, hpos]
  | case3 a b =>
    have htriple := @run_triple n spare pads out h a b 0 (by omega) ['=']
    have hpos : (n + 3) % 4 = 3 := by omega
    rw [encodeList, ← Nat.add_zero (b.toNat % 16 * 4), htriple]
    simp [Scan.run, Scan.position, hpos]
  | case4 a b c rest ih =>
    have hc := c.toNat_lt
    have hbyte : c.toNat / 64 * 64 + c.toNat % 64 = c.toNat := by omega
    rw [encodeList, run_triple h a b (by omega), run_charOf rfl (by omega), push_fourth (by omega),
      ofNat_eq hbyte, ih (by omega)]
    simp

lemma toNat_lt_of_mem_encodeList {bs : Bytes} {c : Char} (h : c ∈ encodeList bs) :
    c.toNat < 128 := by
  have hpad : '='.toNat < 128 := by decide
  have hchar : ∀ v, v < 64 → (charOf v).toNat < 128 := fun v hv => (charOf_spec hv).2.2
  induction bs using encodeList.induct with
  | case1 => simp [encodeList] at h
  | case2 a =>
    have ha := a.toNat_lt
    simp only [encodeList, List.mem_cons, List.not_mem_nil, or_false] at h
    rcases h with rfl | rfl | rfl | rfl
    · exact hchar _ (by omega)
    · exact hchar _ (by omega)
    · exact hpad
    · exact hpad
  | case3 a b =>
    have ha := a.toNat_lt
    have hb := b.toNat_lt
    simp only [encodeList, List.mem_cons, List.not_mem_nil, or_false] at h
    rcases h with rfl | rfl | rfl | rfl
    · exact hchar _ (by omega)
    · exact hchar _ (by omega)
    · exact hchar _ (by omega)
    · exact hpad
  | case4 a b c rest ih =>
    have ha := a.toNat_lt
    have hb := b.toNat_lt
    have hc := c.toNat_lt
    simp only [encodeList, List.mem_cons] at h
    rcases h with rfl | rfl | rfl | rfl | h
    · exact hchar _ (by omega)
    · exact hchar _ (by omega)
    · exact hchar _ (by omega)
    · exact hchar _ (by omega)
    · exact ih h

lemma head?_encodeList (bs : Bytes) : (encodeList bs).head? ≠ some '=' := by
  have hchar : ∀ a : UInt8, charOf (a.toNat / 4) ≠ '=' := by
    intro a
    have ha := a.toNat_lt
    exact (charOf_spec (by omega)).2.1
  obtain _ | ⟨a, _ | ⟨b, _ | ⟨c, rest⟩⟩⟩ := bs
  · simp [encodeList]
  · simpa [encodeList] using hchar a
  · simpa [encodeList] using hchar a
  · simpa [encodeList] using hchar a

/-- Decoding what was encoded gives the bytes back. -/
theorem decode_encode (bs : Bytes) : decode (encode bs) = .ok bs := by
  have hascii : (encodeList bs).any (fun c => 128 ≤ c.toNat) = false := by
    rw [List.any_eq_false]
    intro c hc
    have hlt := toNat_lt_of_mem_encodeList hc
    simpa using hlt
  rw [decode, encode, String.toList_ofList, decodeList, hascii]
  rw [if_neg (by simp), if_neg (head?_encodeList bs)]
  exact run_encodeList bs rfl

end Base64

namespace Key

lemma parse_format {key : Bytes} (h : key.length = size) : parse (format key) = .ok key := by
  rw [parse, format, Base64.decode_encode]
  exact if_pos h

end Key

end MeshAgent
