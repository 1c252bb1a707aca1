import Mathlib.Tactic.Lemma
import Mathlib.Tactic.SplitIfs
import MeshAgent.Endpoint

/-!
# How endpoints are spelled

An endpoint is spelled `host:port` or, also when its host holds colons, `[host]:port`, with a run of
digits for the port. Splitting a text gives the endpoint that it spells, and only that. The one text
that is neither split nor refused as no endpoint has more digits than are read as one number.
-/
namespace MeshAgent

namespace Text

variable {mark : Char} {cs a b a' b' : List Char}

lemma eq_of_cutFirst (h : cutFirst mark cs = (a, some b)) : cs = a ++ mark :: b ∧ mark ∉ a := by
  induction cs generalizing a with
  | nil => simp [cutFirst] at h
  | cons c r ih =>
    rw [cutFirst] at h
    by_cases hc : c = mark
    · rw [if_pos hc, Prod.mk.injEq, Option.some.injEq] at h
      obtain ⟨rfl, rfl⟩ := h
      exact ⟨by rw [hc]; rfl, List.not_mem_nil⟩
    · rw [if_neg hc, Prod.mk.injEq] at h
      obtain ⟨rfl, hb⟩ := h
      obtain ⟨hr, hmark⟩ := ih (Prod.ext rfl hb)
      refine ⟨congrArg (c :: ·) hr, ?_⟩
      rw [List.mem_cons, not_or]
      exact ⟨Ne.symm hc, hmark⟩

lemma not_mem_of_cutLast (h : cutLast mark cs = none) : mark ∉ cs := by
  induction cs with
  | nil => exact List.not_mem_nil
  | cons c r ih =>
    rw [cutLast] at h
    cases hr : cutLast mark r with
    | some p => simp [hr] at h
    | none =>
      have hc : c ≠ mark := by
        rintro rfl
        simp [hr] at h
      rw [List.mem_cons, not_or]
      exact ⟨Ne.symm hc, ih hr⟩

lemma eq_of_cutLast (h : cutLast mark cs = some (a, b)) : cs = a ++ mark :: b ∧ mark ∉ b := by
  induction cs generalizing a with
  | nil => simp [cutLast] at h
  | cons c r ih =>
    rw [cutLast] at h
    cases hr : cutLast mark r with
    | some p =>
      obtain ⟨a', b'⟩ := p
      simp only [hr, Option.some.injEq, Prod.mk.injEq] at h
      obtain ⟨rfl, rfl⟩ := h
      obtain ⟨hcs, hmark⟩ := ih hr
      exact ⟨congrArg (c :: ·) hcs, hmark⟩
    | none =>
      by_cases hc : c = mark
      · simp only [hr, if_pos hc, Option.some.injEq, Prod.mk.injEq] at h
        obtain ⟨rfl, rfl⟩ := h
        exact ⟨by rw [hc]; rfl, not_mem_of_cutLast hr⟩
      · simp [hr, hc] at h

/-- The first mark cuts a text in one way only. -/
lemma append_inj_of_first (ha : mark ∉ a) (ha' : mark ∉ a') (h : a ++ mark :: b = a' ++ mark :: b') :
    a = a' ∧ b = b' := by
  have hcut := congrArg (cutFirst mark) h
  rw [cutFirst_append ha, cutFirst_append ha', Prod.mk.injEq, Option.some.injEq] at hcut
  exact hcut

/-- The last mark cuts a text in one way only. -/
lemma append_inj_of_last (hb : mark ∉ b) (hb' : mark ∉ b') (h : a ++ mark :: b = a' ++ mark :: b') :
    a = a' ∧ b = b' := by
  have hcut := congrArg (cutLast mark) h
  rw [cutLast_append a hb, cutLast_append a' hb', Option.some.injEq, Prod.mk.injEq] at hcut
  exact hcut

end Text

namespace Decimal

lemma not_mem_of_isNumeral {c : Char} (hc : isDigit c = false) {ds : List Char}
    (h : isNumeral ds = true) : c ∉ ds := by
  intro hmem
  rw [isNumeral, Bool.and_eq_true, List.all_eq_true] at h
  have hdigit := h.2 c hmem
  rw [hc] at hdigit
  exact Bool.false_ne_true hdigit

lemma value_replicate_zero (n : Nat) : value (List.replicate n '0') = 0 := by
  induction n with
  | zero => rfl
  | succ n ih => rw [List.replicate_succ', value_append, ih]; rfl

/-- Leading zeros do not count. -/
lemma value_zeros_append (n : Nat) (ds : List Char) :
    value (List.replicate n '0' ++ ds) = value ds := by
  rw [value_append, value_replicate_zero, Nat.zero_mul, Nat.zero_add]

lemma isNumeral_zeros_append (n : Nat) {ds : List Char} (h : isNumeral ds = true) :
    isNumeral (List.replicate n '0' ++ ds) = true := by
  rw [isNumeral, Bool.and_eq_true, List.all_eq_true] at h ⊢
  refine ⟨by cases ds <;> simp_all, fun c hc => ?_⟩
  rcases List.mem_append.mp hc with hzero | hc
  · rw [List.eq_of_mem_replicate hzero]
    rfl
  · exact h.2 c hc

end Decimal

namespace Endpoint

/-- A host and what stands in the place of the port, put together to a text. -/
inductive Form (host port : List Char) : List Char → Prop
  | bare : ':' ∉ host → '[' ∉ host → ']' ∉ host → Form host port (host ++ ':' :: port)
  | bracketed : '[' ∉ host → ']' ∉ host → Form host port ('[' :: host ++ ']' :: ':' :: port)

/-- The text is a host with a decimal number for the port, whatever its size. -/
structure Numbered (text : String) (host digits : List Char) : Prop where
  form : Form host digits text.toList
  numeral : Decimal.isNumeral digits = true

/-- The text is a way to write the endpoint. -/
def Spells (e : Endpoint) (text : String) : Prop :=
  ∃ digits, Numbered text e.host.toList digits ∧ Decimal.value digits = e.port ∧ e.port ≤ 65535

/-- The text has a decimal number of `count` digits for the port, which are too many to be read. -/
def Overlong (text : String) (count : Nat) : Prop :=
  ∃ host digits, Numbered text host digits ∧ digits.length = count ∧ Decimal.digitLimit < count

/-- At most as many characters stand behind the last colon as digits are read as one number. -/
def ShortPort (text : String) : Prop :=
  ∀ front port, text.toList = front ++ ':' :: port → ':' ∉ port → port.length ≤ Decimal.digitLimit

/-- The error for a text that is no endpoint. -/
def refusal (problem : EndpointProblem) (text : String) : AgentError :=
  .validation (.endpoint problem text) .parseEndpoint "endpoint"

section

variable {host port host' port' digits cs : List Char} {text : String}

/-- The brackets around a host cannot be taken for a part of it. -/
lemma head?_ne_bracket (hopen : '[' ∉ host) : (host ++ ':' :: port).head? ≠ some '[' := by
  cases host with
  | nil => simp
  | cons c host =>
    intro h
    obtain rfl := Option.some.inj h
    exact hopen List.mem_cons_self

lemma Form.bare_ne_bracketed (hopen : '[' ∉ host) :
    host ++ ':' :: port ≠ '[' :: host' ++ ']' :: ':' :: port' :=
  fun h => head?_ne_bracket hopen (congrArg List.head? h)

lemma Form.no_bracket (h : Form host port cs) : '[' ∉ host ∧ ']' ∉ host := by
  cases h with
  | bare _ hopen hclose => exact ⟨hopen, hclose⟩
  | bracketed hopen hclose => exact ⟨hopen, hclose⟩

/-- A text is put together in one way only. -/
lemma Form.unique (h : Form host port cs) (h' : Form host' port' cs) :
    host = host' ∧ port = port' := by
  generalize hcs : cs = cs' at h'
  cases h with
  | bare hcolon hopen hclose =>
    cases h' with
    | bare hcolon' hopen' hclose' => exact Text.append_inj_of_first hcolon hcolon' hcs
    | bracketed hopen' hclose' => exact absurd hcs (bare_ne_bracketed hopen)
  | bracketed hopen hclose =>
    cases h' with
    | bare hcolon' hopen' hclose' => exact absurd hcs.symm (bare_ne_bracketed hopen')
    | bracketed hopen' hclose' =>
      obtain ⟨hhost, hrest⟩ := Text.append_inj_of_first hclose hclose' (List.cons.inj hcs).2
      exact ⟨hhost, (List.cons.inj hrest).2⟩

/-- What stands behind the last colon is in the place of the port, and can be exchanged there. -/
lemma Form.behind_colon {front : List Char} (h : Form host port (front ++ ':' :: digits))
    (hport : ':' ∉ port) (hdigits : ':' ∉ digits) :
    port = digits ∧ ∀ port', Form host port' (front ++ ':' :: port') := by
  generalize hcs : front ++ ':' :: digits = cs at h
  cases h with
  | bare hcolon hopen hclose =>
    obtain ⟨rfl, hsame⟩ := Text.append_inj_of_last hport hdigits hcs.symm
    exact ⟨hsame, fun port' => .bare hcolon hopen hclose⟩
  | bracketed hopen hclose =>
    have hcs' : ('[' :: host ++ [']']) ++ ':' :: port = front ++ ':' :: digits := by simp [hcs]
    obtain ⟨rfl, hsame⟩ := Text.append_inj_of_last hport hdigits hcs'
    refine ⟨hsame, fun port' => ?_⟩
    have hform : Form host port' ('[' :: host ++ ']' :: ':' :: port') := .bracketed hopen hclose
    simpa using hform

lemma Form.exists_front (h : Form host port cs) : ∃ front, cs = front ++ ':' :: port := by
  cases h with
  | bare => exact ⟨host, rfl⟩
  | bracketed => exact ⟨'[' :: host ++ [']'], by simp⟩

lemma cut_of_form (h : Form host port cs) (hport : ':' ∉ port) : cut cs = .ok (host, port) := by
  cases h with
  | bare hcolon hopen hclose =>
    rw [cut, if_neg (head?_ne_bracket hopen), Text.cutLast_append host hport]
    simp [hcolon]
  | bracketed hopen hclose =>
    have hclosing := Text.cutFirst_append hclose (':' :: port)
    simp only [cut, List.cons_append, List.head?_cons, if_true, List.tail_cons, hclosing]

lemma form_of_cut (h : cut cs = .ok (host, port)) (hopen : '[' ∉ host) (hclose : ']' ∉ host) :
    Form host port cs := by
  rw [cut] at h
  split at h
  · rename_i hhead
    obtain ⟨r, rfl⟩ := List.head?_eq_some_iff.mp hhead
    rw [List.tail_cons] at h
    rcases hcut : Text.cutFirst ']' r with ⟨before, _ | rest⟩
    · simp [hcut] at h
    · rw [hcut] at h
      simp only at h
      split at h
      · rename_i behind
        obtain ⟨rfl, rfl⟩ := Prod.mk.inj (Except.ok.inj h)
        rw [(Text.eq_of_cutFirst hcut).1]
        exact .bracketed hopen hclose
      · exact nomatch h
  · cases hcut : Text.cutLast ':' cs with
    | none => simp [hcut] at h
    | some p =>
      obtain ⟨before, rest⟩ := p
      simp only [hcut] at h
      split at h
      · exact nomatch h
      · rename_i hcolon
        obtain ⟨rfl, rfl⟩ := Prod.mk.inj (Except.ok.inj h)
        rw [(Text.eq_of_cutLast hcut).1]
        exact .bare (by simpa using hcolon) hopen hclose

lemma readPort_of_isNumeral (h : Decimal.isNumeral digits = true) :
    readPort digits =
      if Decimal.digitLimit < digits.length then .ok (.error digits.length)
      else if 65535 < Decimal.value digits then .error (.portNumber (Decimal.value digits))
      else .ok (.ok (Decimal.value digits)) := by
  rw [readPort, if_pos h]

/-- What becomes of a host with a decimal number for the port. -/
theorem Numbered.split_eq (h : Numbered text host digits) :
    split text =
      if Decimal.digitLimit < digits.length then .error (.tooManyDigits digits.length)
      else if 65535 < Decimal.value digits then
        .error (.agent (refusal (.portNumber (Decimal.value digits)) text))
      else .ok ⟨String.ofList host, Decimal.value digits⟩ := by
  have hcut := cut_of_form h.form (Decimal.not_mem_of_isNumeral (by decide) h.numeral)
  have hbrackets : (host.contains '[' || host.contains ']') = false := by
    simp [h.form.no_bracket.1, h.form.no_bracket.2]
  simp only [split, hcut, hbrackets, Bool.false_eq_true, if_false, readPort_of_isNumeral h.numeral]
  by_cases hlong : Decimal.digitLimit < digits.length
  · simp only [if_pos hlong]
  · by_cases hlarge : 65535 < Decimal.value digits
    · simp only [if_neg hlong, if_pos hlarge, refusal]
    · simp only [if_neg hlong, if_neg hlarge]

/-- Everything else is refused as no endpoint. -/
theorem exists_refusal (h : ∀ host digits, ¬ Numbered text host digits) :
    ∃ problem, split text = .error (.agent (refusal problem text)) := by
  rw [split]
  cases hcut : cut text.toList with
  | error problem => exact ⟨problem, rfl⟩
  | ok parts =>
    obtain ⟨host, port⟩ := parts
    simp only
    split
    · exact ⟨.unexpectedBracket, rfl⟩
    · rename_i hbrackets
      have hform : Form host port text.toList :=
        form_of_cut hcut (by simp_all) (by simp_all)
      have hnumeral : Decimal.isNumeral port ≠ true := fun hnumeral => h host port ⟨hform, hnumeral⟩
      rw [readPort, if_neg hnumeral]
      exact ⟨.portText (String.ofList port), rfl⟩

lemma Numbered.unique (h : Numbered text host digits) (h' : Numbered text host' port') :
    host = host' ∧ digits = port' := h.form.unique h'.form

lemma Numbered.spells_iff {e : Endpoint} (h : Numbered text host digits) :
    e.Spells text ↔
      e = ⟨String.ofList host, Decimal.value digits⟩ ∧ Decimal.value digits ≤ 65535 := by
  constructor
  · rintro ⟨digits', h', hport, hlarge⟩
    obtain ⟨rfl, rfl⟩ := h.unique h'
    rw [String.ofList_toList, hport]
    exact ⟨rfl, hlarge⟩
  · rintro ⟨rfl, hlarge⟩
    exact ⟨digits, by rwa [String.toList_ofList], rfl, hlarge⟩

lemma Numbered.overlong_iff {count : Nat} (h : Numbered text host digits) :
    Overlong text count ↔ count = digits.length ∧ Decimal.digitLimit < digits.length := by
  constructor
  · rintro ⟨host', digits', h', rfl, hlong⟩
    obtain ⟨-, rfl⟩ := h.unique h'
    exact ⟨rfl, hlong⟩
  · rintro ⟨rfl, hlong⟩
    exact ⟨host, digits, h, rfl, hlong⟩

end

variable {text : String} {e e' : Endpoint} {count : Nat}

lemma Spells.unique (h : e.Spells text) (h' : e'.Spells text) : e = e' := by
  have ⟨_, hnumbered, _⟩ := h
  rw [hnumbered.spells_iff] at h h'
  rw [h.1, h'.1]

/-- Without a number for the port, a text spells nothing, and is not too long either. -/
lemma not_spells_of_not_numbered (h : ∀ host digits, ¬ Numbered text host digits) :
    (∀ e : Endpoint, ¬ e.Spells text) ∧ ∀ count, ¬ Overlong text count := by
  refine ⟨?_, ?_⟩
  · rintro e ⟨digits, hnumbered, -, -⟩
    exact h _ _ hnumbered
  · rintro count ⟨host, digits, hnumbered, -, -⟩
    exact h _ _ hnumbered

theorem split_eq_ok_iff :
    split text = .ok e ↔ e.Spells text ∧ ∀ count, ¬ Overlong text count := by
  by_cases hnumbered : ∃ host digits, Numbered text host digits
  · obtain ⟨host, digits, h⟩ := hnumbered
    rw [h.split_eq, h.spells_iff]
    simp only [h.overlong_iff]
    split_ifs with hlong hlarge
    · simp [hlong]
    · simp [Nat.not_le_of_lt hlarge]
    · simp [hlong, Nat.le_of_not_lt hlarge, eq_comm]
  · simp only [not_exists] at hnumbered
    obtain ⟨problem, heq⟩ := exists_refusal hnumbered
    simp [heq, (not_spells_of_not_numbered hnumbered).1]

theorem split_eq_tooManyDigits_iff :
    split text = .error (.tooManyDigits count) ↔ Overlong text count := by
  by_cases hnumbered : ∃ host digits, Numbered text host digits
  · obtain ⟨host, digits, h⟩ := hnumbered
    rw [h.split_eq, h.overlong_iff]
    split_ifs with hlong hlarge
    · simp [hlong, eq_comm]
    · simp [hlong]
    · simp [hlong]
  · simp only [not_exists] at hnumbered
    obtain ⟨problem, heq⟩ := exists_refusal hnumbered
    simp [heq, (not_spells_of_not_numbered hnumbered).2]

theorem split_eq_refusal_iff :
    (∃ problem, split text = .error (.agent (refusal problem text))) ↔
      (∀ e : Endpoint, ¬ e.Spells text) ∧ ∀ count, ¬ Overlong text count := by
  by_cases hnumbered : ∃ host digits, Numbered text host digits
  · obtain ⟨host, digits, h⟩ := hnumbered
    rw [h.split_eq]
    simp only [h.overlong_iff, h.spells_iff]
    split_ifs with hlong hlarge
    · simp [hlong]
    · exact iff_of_true ⟨_, rfl⟩ (by simp [hlong, Nat.not_le_of_lt hlarge])
    · simp [Nat.le_of_not_lt hlarge]
  · simp only [not_exists] at hnumbered
    exact iff_of_true (exists_refusal hnumbered) (not_spells_of_not_numbered hnumbered)

/-- A text is split, or refused as no endpoint, or left because of its digits. -/
lemma split_cases (text : String) :
    (∃ e, split text = .ok e) ∨ (∃ problem, split text = .error (.agent (refusal problem text))) ∨
      ∃ count, split text = .error (.tooManyDigits count) := by
  by_cases hlong : ∃ count, Overlong text count
  · obtain ⟨count, hlong⟩ := hlong
    exact .inr (.inr ⟨count, split_eq_tooManyDigits_iff.mpr hlong⟩)
  · rw [not_exists] at hlong
    by_cases hspells : ∃ e : Endpoint, e.Spells text
    · obtain ⟨e, hspells⟩ := hspells
      exact .inl ⟨e, split_eq_ok_iff.mpr ⟨hspells, hlong⟩⟩
    · exact .inr (.inl (split_eq_refusal_iff.mpr ⟨not_exists.mp hspells, hlong⟩))

lemma ShortPort.not_overlong (h : ShortPort text) (count : Nat) : ¬ Overlong text count := by
  rintro ⟨host, digits, hnumbered, rfl, hlong⟩
  obtain ⟨front, htext⟩ := hnumbered.form.exists_front
  have hcolon := Decimal.not_mem_of_isNumeral (c := ':') rfl hnumbered.numeral
  exact absurd (h front digits htext hcolon) (Nat.not_le_of_lt hlong)

/-- Of two texts that are put together of the same parts, both are split alike. -/
lemma split_eq_ok_congr {text' : String}
    (h : ∀ host port, Form host port text.toList ↔ Form host port text'.toList) :
    split text = .ok e ↔ split text' = .ok e := by
  have hnumbered : ∀ host digits, Numbered text host digits ↔ Numbered text' host digits :=
    fun host digits => ⟨fun k => ⟨(h host digits).mp k.form, k.numeral⟩,
      fun k => ⟨(h host digits).mpr k.form, k.numeral⟩⟩
  simp only [split_eq_ok_iff, Spells, Overlong, hnumbered]

lemma split_bracketed {host port : List Char} (hcolon : ':' ∉ host) (hopen : '[' ∉ host)
    (hclose : ']' ∉ host) :
    split (String.ofList (host ++ ':' :: port)) = .ok e ↔
      split (String.ofList ('[' :: host ++ ']' :: ':' :: port)) = .ok e := by
  apply split_eq_ok_congr
  intro host' port'
  rw [String.toList_ofList, String.toList_ofList]
  have hbare : Form host port (host ++ ':' :: port) := .bare hcolon hopen hclose
  have hbracketed : Form host port ('[' :: host ++ ']' :: ':' :: port) := .bracketed hopen hclose
  constructor
  · intro h
    obtain ⟨rfl, rfl⟩ := hbare.unique h
    exact hbracketed
  · intro h
    obtain ⟨rfl, rfl⟩ := hbracketed.unique h
    exact hbare

/-- Digits of the same value in the place of the port spell the same endpoint. -/
lemma Spells.renumber {front digits digits' : List Char}
    (h : e.Spells (String.ofList (front ++ ':' :: digits)))
    (hdigits : Decimal.isNumeral digits = true)
    (hdigits' : Decimal.isNumeral digits' = true)
    (hvalue : Decimal.value digits' = Decimal.value digits) :
    e.Spells (String.ofList (front ++ ':' :: digits')) := by
  obtain ⟨port, ⟨hform, hport⟩, hsame, hlarge⟩ := h
  rw [String.toList_ofList] at hform
  obtain ⟨rfl, hother⟩ := hform.behind_colon (Decimal.not_mem_of_isNumeral rfl hport)
    (Decimal.not_mem_of_isNumeral rfl hdigits)
  refine ⟨digits', ⟨?_, hdigits'⟩, by rw [hvalue, hsame], hlarge⟩
  rw [String.toList_ofList]
  exact hother digits'

lemma shortPort_of_isNumeral {front digits : List Char} (hdigits : Decimal.isNumeral digits = true)
    (hlength : digits.length ≤ Decimal.digitLimit) :
    ShortPort (String.ofList (front ++ ':' :: digits)) := by
  intro front' port htext hport
  have hcolon := Decimal.not_mem_of_isNumeral (c := ':') rfl hdigits
  rw [String.toList_ofList] at htext
  obtain ⟨rfl, rfl⟩ := Text.append_inj_of_last hcolon hport htext
  exact hlength

lemma split_zeros {front digits : List Char} {n : Nat} (hdigits : Decimal.isNumeral digits = true)
    (hlength : n + digits.length ≤ Decimal.digitLimit) :
    split (String.ofList (front ++ ':' :: digits)) = .ok e ↔
      split (String.ofList (front ++ ':' :: (List.replicate n '0' ++ digits))) = .ok e := by
  have hzeros := Decimal.isNumeral_zeros_append n hdigits
  have hvalue := Decimal.value_zeros_append n digits
  have hshort : ShortPort (String.ofList (front ++ ':' :: digits)) :=
    shortPort_of_isNumeral hdigits (by omega)
  have hshort' : ShortPort (String.ofList (front ++ ':' :: (List.replicate n '0' ++ digits))) :=
    shortPort_of_isNumeral hzeros (by simpa using hlength)
  rw [split_eq_ok_iff, split_eq_ok_iff]
  constructor
  · rintro ⟨h, -⟩
    exact ⟨h.renumber hdigits hzeros hvalue, hshort'.not_overlong⟩
  · rintro ⟨h, -⟩
    exact ⟨h.renumber hzeros hdigits hvalue.symm, hshort.not_overlong⟩

/-- How a text is split: by its spelling alone, so that neither brackets which the host does not
need nor zeros in front of the port matter. -/
structure SplitsBySpelling (text : String) : Prop where
  splits : ∀ e, split text = .ok e ↔ e.Spells text
  refuses : (∀ e : Endpoint, ¬ e.Spells text) →
    ∃ problem, split text = .error (.agent (.validation (.endpoint problem text) .parseEndpoint
      "endpoint"))
  unique : ∀ e e' : Endpoint, e.Spells text → e'.Spells text → e = e'
  brackets : ∀ host port e, ':' ∉ host → '[' ∉ host → ']' ∉ host →
    text = String.ofList (host ++ ':' :: port) →
    (split text = .ok e ↔ split (String.ofList ('[' :: host ++ ']' :: ':' :: port)) = .ok e)
  zeros : ∀ front digits n e, Decimal.isNumeral digits = true →
    n + digits.length ≤ Decimal.digitLimit → text = String.ofList (front ++ ':' :: digits) →
    (split text = .ok e ↔
      split (String.ofList (front ++ ':' :: (List.replicate n '0' ++ digits))) = .ok e)

/-- Splitting an endpoint is exact where the port is not longer than what is read as a number. -/
theorem splits_by_spelling (text : String) (hshort : ShortPort text) : SplitsBySpelling text where
  splits _ := split_eq_ok_iff.trans (and_iff_left hshort.not_overlong)
  refuses hnone := split_eq_refusal_iff.mpr ⟨hnone, hshort.not_overlong⟩
  unique _ _ h h' := h.unique h'
  brackets _ _ _ hcolon hopen hclose htext := htext ▸ split_bracketed hcolon hopen hclose
  zeros _ _ _ _ hdigits hlength htext := htext ▸ split_zeros hdigits hlength

theorem splits_by_spelling_bracketed :
    ShortPort "[fd00::1]:00051820" ∧ SplitsBySpelling "[fd00::1]:00051820" := by
  have hshort : ShortPort (String.ofList ("[fd00::1]".toList ++ ':' :: "00051820".toList)) :=
    shortPort_of_isNumeral (by decide) (by decide)
  exact ⟨hshort, splits_by_spelling _ hshort⟩

end Endpoint

end MeshAgent
