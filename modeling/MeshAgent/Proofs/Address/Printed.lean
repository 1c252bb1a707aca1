import MeshAgent.Address.Parser
import MeshAgent.Proofs.Text.Written
import MeshAgent.Store.Write

/-!
# Printed addresses are read back

Every address has a printed form, and reading it gives the address back with its prefix and its zone.
The gap of an IPv6 text stands for exactly the zeros that were left out, also at either end.
-/
namespace MeshAgent.Address

lemma isDigit_colon : Decimal.isDigit ':' = false := by decide
lemma isDigit_dot : Decimal.isDigit '.' = false := by decide
lemma isDigit_slash : Decimal.isDigit '/' = false := by decide

lemma readOctet?_write {n : Nat} (h : n ≤ 255) : readOctet? (Decimal.write n) = some n := by
  have hlead : Decimal.write n = ['0'] ∨ (Decimal.write n).head? ≠ some '0' := by
    by_cases hn : n = 0
    · left
      rw [hn, Decimal.write_of_lt (by omega)]
      rfl
    · exact Or.inr (Decimal.head?_write (by omega))
  rw [readOctet?, if_pos ⟨Decimal.isNumeral_write n, Decimal.length_write_le (by omega), hlead⟩,
    Decimal.value_write]
  exact if_pos h

lemma octets_le (bits : BitVec 32) : ∀ n ∈ octets bits, n ≤ 255 := by
  intro n hn
  obtain ⟨i, -, rfl⟩ := List.mem_map.mp hn
  omega

lemma foldl_octets (bits : BitVec 32) :
    (octets bits).foldl (fun acc n => acc * 256 + n) 0 = bits.toNat := by
  have hlt := bits.isLt
  simp only [octets, List.map_cons, List.map_nil, List.foldl_cons, List.foldl_nil,
    Nat.shiftRight_eq_div_pow]
  omega

/-- What stands between the dots of an IPv4 text. -/
lemma pieces_writeBits4 (bits : BitVec 32) :
    Text.pieces '.' (writeBits4 bits) = (octets bits).map Decimal.write := by
  rw [writeBits4, Text.pieces_join]
  · rfl
  · intro p hp
    obtain ⟨n, -, rfl⟩ := List.mem_map.mp hp
    exact Decimal.not_mem_write isDigit_dot n

lemma readBits4?_writeBits4 (bits : BitVec 32) : readBits4? (writeBits4 bits) = some bits := by
  have hread : ((octets bits).map Decimal.write).mapM readOctet? = some (octets bits) :=
    mapM_read fun n hn => readOctet?_write (octets_le bits n hn)
  rw [readBits4?, pieces_writeBits4, hread]
  have hlen : (octets bits).length = 4 := rfl
  simp only [Option.bind_eq_bind, Option.bind_some, hlen, if_true, foldl_octets,
    BitVec.ofNat_toNat, BitVec.setWidth_eq]

/-- A text with a sign that is neither a digit nor a dot is no IPv4 address. -/
lemma readBits4?_eq_none {cs : List Char} {c : Char} (hc : c ∈ cs) (hdot : c ≠ '.')
    (hdigit : Decimal.isDigit c = false) : readBits4? cs = none := by
  obtain ⟨p, hp, hcp⟩ := Text.exists_mem_pieces hc hdot
  have hoctet : readOctet? p = none := by
    refine if_neg fun h => ?_
    have hnum := h.1
    simp only [Decimal.isNumeral, Bool.and_eq_true, List.all_eq_true] at hnum
    rw [hnum.2 c hcp] at hdigit
    simp at hdigit
  have hnone : ∀ ps : List (List Char), p ∈ ps → ps.mapM readOctet? = none := by
    intro ps hmem
    induction ps with
    | nil => simp at hmem
    | cons q ps ih =>
      rw [List.mapM_cons]
      rcases List.mem_cons.mp hmem with rfl | hmem
      · rw [hoctet]; rfl
      · rw [ih hmem]
        cases readOctet? q <;> rfl
  rw [readBits4?, hnone _ hp]
  rfl

lemma readPrefix?_write {limit n : Nat} (hlimit : limit < 1000) (h : n < limit + 1) :
    readPrefix? limit (Decimal.write n) = some ⟨n, h⟩ := by
  have hlen := Decimal.length_write_le (n := n) (by omega)
  have hdigits : (Decimal.write n).length ≤ Decimal.digitLimit := by
    rw [Decimal.digitLimit]
    omega
  have hvalue : Decimal.value (Decimal.write n) < limit + 1 := by rwa [Decimal.value_write]
  rw [readPrefix?, if_pos ⟨Decimal.isNumeral_write n, hdigits⟩, dif_pos hvalue]
  simp only [Decimal.value_write]

lemma cutPrefix?_append {host : List Char} (h : '/' ∉ host) (n : Nat) :
    cutPrefix? (host ++ '/' :: Decimal.write n) = some (host, some (Decimal.write n)) := by
  have hslash : (Decimal.write n).contains '/' = false := by
    simpa using Decimal.not_mem_write isDigit_slash n
  rw [cutPrefix?, Text.cutFirst_append h]
  simp only [hslash, Bool.false_eq_true, if_false]

lemma slash_not_mem_writeBits4 (bits : BitVec 32) : '/' ∉ writeBits4 bits := by
  intro h
  rcases Text.mem_join h with h | ⟨p, hp, hc⟩
  · simp at h
  · obtain ⟨n, -, rfl⟩ := List.mem_map.mp hp
    exact Decimal.not_mem_write isDigit_slash n hc

lemma read4?_write (a : Address4) : read4? (write (v4 a)) = some a := by
  rw [write, read4?, cutPrefix?_append (slash_not_mem_writeBits4 a.bits)]
  simp only [Option.bind_eq_bind, Option.bind_some, readBits4?_writeBits4, readPrefix4?,
    @readPrefix?_write 32 _ (by omega) a.prefixLength.isLt]

/-- The groups that the text of some groups stands for; no groups leave one empty text. -/
def parts (gs : List Nat) : List (Option Nat) := if gs = [] then [none] else gs.map some

lemma writeGroup_eq {n : Nat} (h : n < 65536) :
    ∃ width, 0 < width ∧ width ≤ 4 ∧ n < 16 ^ width ∧ writeGroup n = Text.hexPad width n := by
  rw [writeGroup]
  split
  · exact ⟨1, by omega, by omega, by omega, rfl⟩
  · split
    · exact ⟨2, by omega, by omega, by omega, rfl⟩
    · split
      · exact ⟨3, by omega, by omega, by omega, rfl⟩
      · exact ⟨4, by omega, by omega, by omega, rfl⟩

lemma readPart?_writeGroup {n : Nat} (h : n < 65536) : readPart? (writeGroup n) = some (some n) := by
  obtain ⟨width, hpos, hle, hlt, hw⟩ := writeGroup_eq h
  have hlen := Text.length_hexPad width n
  obtain ⟨ds, hds, hfold⟩ := Bytes.mapM_hexValue?_hexPad width n
  have hne : (Text.hexPad width n).isEmpty = false := by
    cases hp : Text.hexPad width n with
    | nil => simp [hp] at hlen; omega
    | cons c cs => rfl
  rw [hw, readPart?, hne, readGroup?, hne, hds, hlen]
  have hfour : ¬ 4 < width := by omega
  simp [hfour, hfold, Nat.mod_eq_of_lt hlt]

/-- A group is written in digits, which are no marks. -/
lemma not_mem_writeGroup {n : Nat} (h : n < 65536) {c : Char}
    (hc : ∀ d < 16, Text.hexDigit d ≠ c) : c ∉ writeGroup n := by
  obtain ⟨width, -, -, -, hw⟩ := writeGroup_eq h
  rw [hw]
  intro hmem
  obtain ⟨d, hd, rfl⟩ := Text.mem_hexPad hmem
  exact hc d hd rfl

lemma mapM_readPart? {gs : List Nat} (h : ∀ g ∈ gs, g < 65536) :
    (Text.parts (gs.map writeGroup)).mapM readPart? = some (parts gs) := by
  cases gs with
  | nil => rfl
  | cons g gs =>
    have hread : (((g :: gs).map some).map fun o => writeGroup (o.getD 0)).mapM readPart? =
        some ((g :: gs).map some) := by
      refine mapM_read fun o ho => ?_
      obtain ⟨k, hk, rfl⟩ := List.mem_map.mp ho
      exact readPart?_writeGroup (h k hk)
    rw [List.map_map] at hread
    exact hread

/-- Texts without dots are groups, each on its own. -/
lemma readParts?_eq {ps : List (List Char)} (h : ∀ p ∈ ps, '.' ∉ p) :
    readParts? ps = ps.mapM readPart? := by
  induction ps with
  | nil => rfl
  | cons p ps ih =>
    have hp : p.contains '.' = false := by simpa using h p List.mem_cons_self
    cases ps with
    | nil =>
      rw [readParts?, hp, List.mapM_cons]
      cases readPart? p <;> rfl
    | cons q ps =>
      rw [readParts?, ih fun r hr => h r (List.mem_cons_of_mem _ hr)]
      exact List.mapM_cons.symm

lemma cutGap_map_some (gs : List Nat) : cutGap (gs.map some) = none := by
  induction gs with
  | nil => rfl
  | cons g gs ih =>
    cases gs with
    | nil => rfl
    | cons k gs =>
      rw [List.map_cons] at ih ⊢
      rw [List.map_cons, cutGap, ih]
      · rfl
      · simp

lemma cutGap_append (gs : List Nat) {lo : List (Option Nat)} (hlo : lo ≠ []) :
    cutGap (gs.map some ++ none :: lo) = some (gs.map some, lo) := by
  induction gs with
  | nil =>
    cases lo with
    | nil => exact absurd rfl hlo
    | cons o lo => rfl
  | cons g gs ih =>
    rw [List.map_cons, List.cons_append, cutGap, ih]
    · rfl
    · simp

lemma mapM_id_map_some (gs : List Nat) : (gs.map some).mapM id = some gs :=
  mapM_read fun _ _ => rfl

lemma side?_parts (gs : List Nat) : side? (parts gs) = some gs := by
  cases gs with
  | nil => rfl
  | cons g gs =>
    rw [parts, if_neg (by simp), side?, if_neg (by simp)]
    exact mapM_id_map_some (g :: gs)

/-- A gap stands for what the groups before and after it leave of the eight. -/
lemma assemble?_gap {hi lo : List Nat} (h : hi.length + lo.length < 8) :
    assemble? (parts hi ++ none :: parts lo) =
      some (hi ++ List.replicate (8 - (hi.length + lo.length)) 0 ++ lo) := by
  have hlo : parts lo ≠ [] := by
    rw [parts]
    split <;> simp_all
  have hcut : ∃ first rest before, parts hi ++ none :: parts lo = first :: rest ∧
      cutGap rest = some (before, parts lo) ∧ first :: before = parts hi := by
    cases hi with
    | nil => exact ⟨none, _, [], rfl, cutGap_append [] hlo, rfl⟩
    | cons g gs => exact ⟨some g, _, gs.map some, rfl, cutGap_append gs hlo, rfl⟩
  obtain ⟨first, rest, before, heq, hcut, hbefore⟩ := hcut
  rw [heq, assemble?, hcut]
  simp only [hbefore, side?_parts, Option.bind_eq_bind, Option.bind_some, h, if_true]

lemma assemble?_full {gs : List Nat} (h : gs.length = 8) : assemble? (gs.map some) = some gs := by
  cases gs with
  | nil => simp at h
  | cons g gs =>
    have hall := mapM_id_map_some (g :: gs)
    rw [List.map_cons] at hall ⊢
    rw [assemble?, cutGap_map_some, hall]
    exact if_pos h

lemma take_leadingZeros (gs : List Nat) :
    leadingZeros gs ≤ gs.length ∧
      List.replicate (leadingZeros gs) 0 ++ gs.drop (leadingZeros gs) = gs := by
  induction gs with
  | nil => exact ⟨Nat.le_refl _, rfl⟩
  | cons g gs ih =>
    by_cases hg : g = 0
    · have hz : leadingZeros (g :: gs) = leadingZeros gs + 1 := by simp [leadingZeros, hg]
      rw [hz, List.replicate_succ, List.drop_succ_cons, List.cons_append, ih.2, hg]
      exact ⟨by simpa using ih.1, rfl⟩
    · have hz : leadingZeros (g :: gs) = 0 := by simp [leadingZeros, hg]
      rw [hz]
      exact ⟨by omega, rfl⟩

/-- The longest run of zeros is one. -/
lemma longestZeros_spec (gs : List Nat) :
    (longestZeros gs).1 + (longestZeros gs).2 ≤ gs.length ∧
      gs.take (longestZeros gs).1 ++ List.replicate (longestZeros gs).2 0 ++
        gs.drop ((longestZeros gs).1 + (longestZeros gs).2) = gs := by
  induction gs with
  | nil => exact ⟨Nat.le_refl _, rfl⟩
  | cons g gs ih =>
    rw [longestZeros]
    by_cases hlater : (longestZeros gs).2 ≤ leadingZeros (g :: gs)
    · have hz := take_leadingZeros (g :: gs)
      simp only [if_pos hlater, Nat.zero_add, List.take_zero, List.nil_append]
      exact hz
    · simp only [if_neg hlater, Nat.add_right_comm _ 1, List.take_succ_cons, List.drop_succ_cons,
        List.cons_append, ih.2, List.length_cons, and_true]
      omega

lemma groups_lt (bits : BitVec 128) : ∀ g ∈ groups bits, g < 65536 := by
  intro g hg
  obtain ⟨i, -, rfl⟩ := List.mem_map.mp hg
  omega

lemma shiftRight_group (n i : Nat) : (n >>> (i + 16)) * 65536 + (n >>> i) % 65536 = n >>> i := by
  rw [Nat.shiftRight_add, Nat.shiftRight_eq_div_pow (n >>> i) 16]
  omega

lemma foldl_groups (bits : BitVec 128) :
    (groups bits).foldl (fun acc g => acc * 65536 + g) 0 = bits.toNat := by
  have hlt := bits.isLt
  have hfirst : (bits.toNat >>> 112) % 65536 = bits.toNat >>> 112 := by
    rw [Nat.shiftRight_eq_div_pow]
    omega
  simp only [groups, List.map_cons, List.map_nil, List.foldl_cons, List.foldl_nil, Nat.zero_mul,
    Nat.zero_add, hfirst]
  rw [shiftRight_group _ 96, shiftRight_group _ 80, shiftRight_group _ 64, shiftRight_group _ 48,
    shiftRight_group _ 32, shiftRight_group _ 16, shiftRight_group _ 0, Nat.shiftRight_zero]

lemma dot_not_mem_parts {gs : List Nat} (h : ∀ g ∈ gs, g < 65536) :
    ∀ p ∈ Text.parts (gs.map writeGroup), '.' ∉ p := by
  intro p hp
  rw [Text.parts] at hp
  split at hp
  · simp_all
  · obtain ⟨g, hg, rfl⟩ := List.mem_map.mp hp
    exact not_mem_writeGroup (h g hg) fun d hd => (Text.hexDigit_not_mark hd).2.1

lemma colon_not_mem_groups {gs : List Nat} (h : ∀ g ∈ gs, g < 65536) :
    ∀ p ∈ gs.map writeGroup, ':' ∉ p := by
  intro p hp
  obtain ⟨g, hg, rfl⟩ := List.mem_map.mp hp
  exact not_mem_writeGroup (h g hg) fun d hd => (Text.hexDigit_not_mark hd).1

/-- The pieces of a text with a gap: there are at least three, and the one in the gap is empty. -/
lemma readParts?_gap {hi lo : List Nat} (hhi : ∀ g ∈ hi, g < 65536) (hlo : ∀ g ∈ lo, g < 65536)
    {cs : List Char} (hcs : cs = Text.join [':'] (hi.map writeGroup) ++ [':', ':'] ++
      Text.join [':'] (lo.map writeGroup)) :
    3 ≤ (Text.pieces ':' cs).length ∧
      readParts? (Text.pieces ':' cs) = some (parts hi ++ none :: parts lo) := by
  subst hcs
  have hpieces : Text.pieces ':' (Text.join [':'] (hi.map writeGroup) ++ [':', ':'] ++
      Text.join [':'] (lo.map writeGroup)) =
      Text.parts (hi.map writeGroup) ++ [] :: Text.parts (lo.map writeGroup) := by
    rw [List.append_assoc, List.cons_append, List.cons_append, List.nil_append,
      Text.pieces_join_append (colon_not_mem_groups hhi), Text.pieces, if_pos rfl,
      Text.pieces_join (colon_not_mem_groups hlo)]
  have hpos : ∀ ps : List (List Char), 0 < (Text.parts ps).length := by
    intro ps
    rw [Text.parts]
    split
    · simp
    · exact List.length_pos_iff.mpr ‹_›
  rw [hpieces]
  refine ⟨?_, ?_⟩
  · have h₁ := hpos (hi.map writeGroup)
    have h₂ := hpos (lo.map writeGroup)
    simp only [List.length_append, List.length_cons]
    omega
  · rw [readParts?_eq, List.mapM_append, List.mapM_cons, mapM_readPart? hhi, mapM_readPart? hlo]
    · rfl
    · intro p hp
      rcases List.mem_append.mp hp with hp | hp
      · exact dot_not_mem_parts hhi p hp
      · rcases List.mem_cons.mp hp with rfl | hp
        · simp
        · exact dot_not_mem_parts hlo p hp

/-- The pieces of a text without a gap. -/
lemma readParts?_full {gs : List Nat} (hne : gs ≠ []) (h : ∀ g ∈ gs, g < 65536) :
    Text.pieces ':' (Text.join [':'] (gs.map writeGroup)) = gs.map writeGroup ∧
      readParts? (gs.map writeGroup) = some (gs.map some) := by
  have hparts : Text.parts (gs.map writeGroup) = gs.map writeGroup := if_neg (by simpa using hne)
  refine ⟨by rw [Text.pieces_join (colon_not_mem_groups h), hparts], ?_⟩
  have hread := mapM_readPart? h
  have hdot := dot_not_mem_parts h
  rw [hparts] at hread hdot
  rw [readParts?_eq hdot, hread, parts, if_neg hne]

/-- What stands between the colons of an IPv6 text, and the groups that it stands for. -/
lemma readParts?_writeGroups {gs : List Nat} (hlen : gs.length = 8) (h : ∀ g ∈ gs, g < 65536) :
    3 ≤ (Text.pieces ':' (writeGroups gs)).length ∧
      (readParts? (Text.pieces ':' (writeGroups gs))).bind assemble? = some gs := by
  have hspec := longestZeros_spec gs
  rw [writeGroups]
  by_cases hrun : 2 ≤ (longestZeros gs).2
  · simp only [if_pos hrun]
    generalize hhi : gs.take (longestZeros gs).1 = hi at hspec ⊢
    generalize hlo : gs.drop ((longestZeros gs).1 + (longestZeros gs).2) = lo at hspec ⊢
    have hsum : hi.length + (longestZeros gs).2 + lo.length = 8 := by
      have hl := congrArg List.length hspec.2
      simp only [List.length_append, List.length_replicate, hlen] at hl
      exact hl
    have hlt₁ : ∀ g ∈ hi, g < 65536 := fun g hg => h g (List.mem_of_mem_take (hhi ▸ hg))
    have hlt₂ : ∀ g ∈ lo, g < 65536 := fun g hg => h g (List.mem_of_mem_drop (hlo ▸ hg))
    obtain ⟨hthree, hread⟩ := readParts?_gap hlt₁ hlt₂ rfl
    have hzeros : 8 - (hi.length + lo.length) = (longestZeros gs).2 := by omega
    rw [hread, Option.bind_some, assemble?_gap (by omega), hzeros, hspec.2]
    exact ⟨hthree, rfl⟩
  · simp only [if_neg hrun]
    have hne : gs ≠ [] := by
      intro hnil
      simp [hnil] at hlen
    obtain ⟨hpieces, hread⟩ := readParts?_full hne h
    rw [hpieces, hread]
    exact ⟨by rw [List.length_map]; omega, assemble?_full hlen⟩

lemma readBits6?_writeBits6 (bits : BitVec 128) : readBits6? (writeBits6 bits) = some bits := by
  obtain ⟨hthree, hread⟩ := @readParts?_writeGroups (groups bits) rfl (groups_lt bits)
  have hnot : ¬ (Text.pieces ':' (writeBits6 bits)).length < 3 := by
    rw [writeBits6]
    omega
  have hbind : (do
      let gs ← assemble? (← readParts? (Text.pieces ':' (writeBits6 bits)))
      some (BitVec.ofNat 128 (gs.foldl (fun acc g => acc * 65536 + g) 0))) =
      ((readParts? (Text.pieces ':' (writeBits6 bits))).bind assemble?).bind
        fun gs => some (BitVec.ofNat 128 (gs.foldl (fun acc g => acc * 65536 + g) 0)) := by
    cases readParts? (Text.pieces ':' (writeBits6 bits)) <;> rfl
  rw [readBits6?]
  simp only [if_neg hnot]
  rw [hbind, writeBits6, hread, Option.bind_some, foldl_groups]
  simp

/-- What an IPv6 text is made of: digits and colons. -/
lemma mem_writeBits6 {bits : BitVec 128} {c : Char} (h : c ∈ writeBits6 bits) :
    c = ':' ∨ ∃ d < 16, c = Text.hexDigit d := by
  have hjoin : ∀ gs : List Nat, (∀ g ∈ gs, g < 65536) →
      c ∈ Text.join [':'] (gs.map writeGroup) → c = ':' ∨ ∃ d < 16, c = Text.hexDigit d := by
    intro gs hgs hc
    rcases Text.mem_join hc with hc | ⟨p, hp, hc⟩
    · exact Or.inl hc
    · obtain ⟨g, hg, rfl⟩ := List.mem_map.mp hp
      obtain ⟨width, -, -, -, hw⟩ := writeGroup_eq (hgs g hg)
      rw [hw] at hc
      exact Or.inr (Text.mem_hexPad hc)
  rw [writeBits6, writeGroups] at h
  have hlt := groups_lt bits
  simp only at h
  split at h
  · simp only [List.mem_append, List.mem_cons, List.not_mem_nil, or_false, or_self] at h
    rcases h with (h | h) | h
    · exact hjoin _ (fun g hg => hlt g (List.mem_of_mem_take hg)) h
    · exact Or.inl h
    · exact hjoin _ (fun g hg => hlt g (List.mem_of_mem_drop hg)) h
  · exact hjoin _ hlt h

lemma colon_mem_writeBits6 (bits : BitVec 128) : ':' ∈ writeBits6 bits := by
  rw [writeBits6, writeGroups]
  simp only
  split
  · simp
  · exact Text.mark_mem_join (by simp [groups])

lemma not_mem_writeBits6 (bits : BitVec 128) {c : Char} (hcolon : c ≠ ':')
    (hdigit : ∀ d < 16, Text.hexDigit d ≠ c) : c ∉ writeBits6 bits := by
  intro hc
  rcases mem_writeBits6 hc with h | ⟨d, hd, rfl⟩
  · exact hcolon h
  · exact hdigit d hd rfl

lemma slash_not_mem_host6 (a : Address6) : '/' ∉ writeBits6 a.bits ++ writeZone a.zone := by
  rw [List.mem_append]
  rintro (h | h)
  · exact not_mem_writeBits6 a.bits (by decide) (fun d hd => (Text.hexDigit_not_mark hd).2.2.2) h
  · obtain ⟨bits, len, zone⟩ := a
    cases zone with
    | none => simp [writeZone] at h
    | some z =>
      have hz := z.plain.2
      simp_all [writeZone]

lemma write_v6 (a : Address6) :
    write (v6 a) =
      (writeBits6 a.bits ++ writeZone a.zone) ++ '/' :: Decimal.write a.prefixLength := rfl

/-- The colons tell an IPv6 text from an IPv4 one. -/
lemma read4?_write_v6 (a : Address6) : read4? (write (v6 a)) = none := by
  rw [write_v6, read4?, cutPrefix?_append (slash_not_mem_host6 a)]
  have hcolon := List.mem_append_left (writeZone a.zone) (colon_mem_writeBits6 a.bits)
  rw [Option.bind_eq_bind, Option.bind_some]
  simp only
  rw [readBits4?_eq_none hcolon (by decide) isDigit_colon]
  rfl

lemma cutFirst_host6 (a : Address6) :
    ∃ zone, Text.cutFirst '%' (writeBits6 a.bits ++ writeZone a.zone) =
      (writeBits6 a.bits, zone) ∧ readZone? zone = some a.zone := by
  have hbits : '%' ∉ writeBits6 a.bits :=
    not_mem_writeBits6 a.bits (by decide) fun d hd => (Text.hexDigit_not_mark hd).2.2.1
  obtain ⟨bits, len, zone⟩ := a
  cases zone with
  | none => exact ⟨none, by simpa [writeZone] using Text.cutFirst_of_not_mem hbits, rfl⟩
  | some z =>
    refine ⟨some z.text.toList, Text.cutFirst_append hbits _, ?_⟩
    have hzone : Zone.ofString? z.text = some z := dif_pos ⟨z.nonempty, z.plain⟩
    simp [readZone?, hzone]

lemma read6?_write (a : Address6) : read6? (write (v6 a)) = some a := by
  obtain ⟨zone, hcut, hzone⟩ := cutFirst_host6 a
  rw [write_v6, read6?, cutPrefix?_append (slash_not_mem_host6 a)]
  simp only [Option.bind_eq_bind, Option.bind_some, hcut, hzone, readBits6?_writeBits6,
    @readPrefix?_write 128 _ (by omega) a.prefixLength.isLt]

/-- Reading the printed form of an address gives the address back. -/
theorem ofText?_text (a : Address) : ofText? a.text = some a := by
  rw [ofText?, text, String.toList_ofList, read?]
  cases a with
  | v4 a => rw [read4?_write]
  | v6 a =>
    rw [read4?_write_v6, read6?_write]
    rfl

@[simp] theorem parse_text (a : Address) : parse a.text = .ok a := by
  rw [parse, ofText?_text]

lemma text_injective {a b : Address} (h : a.text = b.text) : a = b := by
  have hread := parse_text a
  rw [h, parse_text] at hread
  exact (Except.ok.inj hread).symm

/-- Every text that may name a zone is the name of one. -/
lemma exists_zone {scope : String} (hne : scope ≠ "") (hpercent : '%' ∉ scope.toList)
    (hslash : '/' ∉ scope.toList) : ∃ zone : Zone, zone.text = scope :=
  ⟨⟨scope, hne, hpercent, hslash⟩, rfl⟩

/-- What printing keeps of an address, whatever it was read from. -/
structure ReadsBack : Prop where
  every4 : ∀ (bits : BitVec 32) (len : Fin 33),
    parse (v4 ⟨bits, len⟩).text = .ok (v4 ⟨bits, len⟩)
  every6 : ∀ (bits : BitVec 128) (len : Fin 129),
    parse (v6 ⟨bits, len, none⟩).text = .ok (v6 ⟨bits, len, none⟩)
  everyZoned : ∀ (bits : BitVec 128) (len : Fin 129) (scope : String), scope ≠ "" →
    '%' ∉ scope.toList → '/' ∉ scope.toList → ∃ zone : Zone, zone.text = scope ∧
      parse (v6 ⟨bits, len, some zone⟩).text = .ok (v6 ⟨bits, len, some zone⟩)
  injective : ∀ a b : Address, a.text = b.text → a = b
  /-- A text that is read is printed in the one form in which its address is printed again. -/
  settles : ∀ t a, parse t = .ok a →
    parse a.text = .ok a ∧ (parse a.text).map text = .ok a.text
  /-- The columns of an interface hold its addresses. -/
  columns : ∀ (i : Interface) (key deviceToken : Bytes),
    parse (i.toColumns key deviceToken).netCidr = .ok i.network.cidr ∧
    parse (i.toColumns key deviceToken).deviceAddr = .ok i.device.addr ∧
    ∀ d ∈ i.peers, parse d.toPeerColumns.deviceAddr = .ok d.addr

theorem text_reads_back : ReadsBack where
  every4 _ _ := parse_text _
  every6 _ _ := parse_text _
  everyZoned bits len scope hne hpercent hslash := by
    obtain ⟨zone, hzone⟩ := exists_zone hne hpercent hslash
    exact ⟨zone, hzone, parse_text _⟩
  injective _ _ := text_injective
  settles _ a _ := ⟨parse_text a, by rw [parse_text]; rfl⟩
  columns i _ _ := ⟨parse_text _, parse_text _, fun _ _ => parse_text _⟩

end MeshAgent.Address
