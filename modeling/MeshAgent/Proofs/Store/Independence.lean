import MeshAgent.Proofs.Store.Verdicts

/-!
# Updates of two interfaces

What an update does to the tables can be seen in its interface and in the entries of it only. So a
call on another interface cannot tell it from no call, unless the two have an identity in common or
the log runs full.
-/
namespace MeshAgent

/-! ## What an update does -/

/-- The columns of a row for what was answered, which do not hold the number of the entry. -/
def LogColumns.answered (answered : Int × Entry) : LogColumns :=
  { seconds := some answered.2.seconds, interfaceId := answered.1
    operation := answered.2.operation.name, state := answered.2.state.name
    dirty := if answered.2.dirty then 1 else 0, message := answered.2.message }

/-- What is added to the log does not depend on its number. -/
lemma Call.entered?_unnumbered (now n : Int) (c : Call Interface) (r : Except Failure Answer) :
    (c.entered? now n r).map LogColumns.answered =
      (c.entered? now 0 (r.map Answer.unnumbered)).map LogColumns.answered := by
  cases r with
  | error f => cases c <;> rfl
  | ok answer =>
    cases answer with
    | entry e => cases e <;> cases c <;> rfl
    | _ => cases c <;> rfl

lemma Call.written?_unnumbered (config : Config) (c : Call Interface) (r : Except Failure Answer) :
    c.written? config r = c.written? config (r.map Answer.unnumbered) := by
  cases r with
  | error f => rfl
  | ok answer => cases answer <;> cases c <;> rfl

namespace Tables

variable {s : Store} {key : Bytes} {t t' t₁ t₂ : Tables} {id i j : Int}

/-- The columns of the log grow by those of the entries that were added. -/
lemma Evolves.log_columns {es : List (Int × Entry)} (h : t.Evolves s es t') :
    t'.log.map (·.toLogColumns) = t.log.map (·.toLogColumns) ++ es.map LogColumns.answered ∧
      t'.lastLogId = t.lastLogId + es.length := by
  induction h with
  | refl => simp
  | stored _ hrun ih =>
    obtain ⟨-, -, t₀, hup, rfl⟩ := Change.store_eq_ok hrun
    obtain ⟨-, -, rfl⟩ := upsertInterface_eq_ok hup
    simpa using ih
  | entered _ _ hrun ih =>
    obtain ⟨-, -, rfl, rfl⟩ := Change.append_eq_ok hrun
    refine ⟨?_, ?_⟩
    · simp only [List.map_append, List.map_cons, List.map_nil, ih.1, List.append_assoc,
        LogColumns.answered]
    · simp only [ih.2, List.length_append, List.length_cons, List.length_nil]
      push_cast
      omega

/-- `t'` is what an update of the interface under the id makes of the tables `t`. -/
structure Updated (key : Bytes) (t : Tables) (id : Int) (written : Option Interface)
    (entry : Option LogColumns) (t' : Tables) : Prop where
  sound : t'.Sound key
  holds : ∀ y, t'.Holds key y ↔
    match written with
    | none => t.Holds key y
    | some x => y = x ∨ y.id ≠ id ∧ t.Holds key y
  log : t'.log.map (·.toLogColumns) = t.log.map (·.toLogColumns) ++ entry.toList
  last : t'.lastLogId = t.lastLogId + entry.toList.length
  written_id : ∀ x, written = some x → x.id = id
  entry_id : ∀ c, entry = some c → c.interfaceId = id

end Tables

/-- What a call on a stored interface makes of the tables. -/
theorem Call.updated (config : Config) {s : Store} (hk : s.key.length = SecretBox.keySize)
    (now : Int) (e : Entropy) {t : Tables} (ht : t.Sound s.key) {a : Interface}
    (ha : t.Holds s.key a) {c : Call Interface} (hc : c.Updates a.id) :
    Tables.Updated s.key t a.id
      (c.written? config ((c.change config s now e).outcome t))
      ((c.entered? now 0 ((c.change config s now e).outcome t)).map LogColumns.answered)
      ((c.change config s now e).after t) := by
  have heffect := c.effect config hk now e ht
  obtain ⟨hlog, hlast⟩ := (c.evolves config s now e t).log_columns
  have hentered := c.entered?_unnumbered now (t.lastLogId + 1) ((c.change config s now e).outcome t)
  rw [← c.entered?_unnumbered now 0] at hentered
  have hout := outcome_eq_verdict config now e ht ha hc
  -- the verdict ties what the answer tells of the call to what the call was to do
  have hwritten : ∀ x, c.written? config ((c.change config s now e).outcome t) = some x →
      x.id = a.id := by
    intro x hx
    rw [hout] at hx
    exact hc.writes?_id (hc.writes?_of_written? hx)
  have hentry : ∀ col, (c.entered? now 0 ((c.change config s now e).outcome t)).map
      LogColumns.answered = some col → col.interfaceId = a.id := by
    intro col hcol
    obtain ⟨added, hadded, rfl⟩ := Option.map_eq_some_iff.mp hcol
    rw [hout] at hadded
    exact (hc.enters?_of_entered? hadded).1
  refine ⟨heffect.sound, fun y => ?_, ?_, ?_, hwritten, hentry⟩
  · rw [heffect.holds y]
    cases hw : c.written? config ((c.change config s now e).outcome t) with
    | none => exact Iff.rfl
    | some x => simp only [hwritten x hw]
  · rw [hlog, ← hentered, Option.toList_map]
  · rw [hlast, ← hentered, Option.toList_map, List.length_map]

namespace Tables

variable {key : Bytes} {t t₁ t₂ t₁₂ t₂₁ : Tables} {i j : Int} {wA wB : Option Interface}
  {eA eB : Option LogColumns}

/-- Updates of two interfaces store the same, whichever comes first. -/
lemma Updated.holds_comm (hA : Updated key t i wA eA t₁) (hAB : Updated key t₁ j wB eB t₁₂)
    (hB : Updated key t j wB eB t₂) (hBA : Updated key t₂ i wA eA t₂₁) (hne : i ≠ j)
    (y : Interface) : t₂₁.Holds key y ↔ t₁₂.Holds key y := by
  rw [hBA.holds, hAB.holds]
  cases wA with
  | none =>
    cases wB with
    | none => simp only [hA.holds, hB.holds]
    | some q => simp only [hA.holds, hB.holds]
  | some p =>
    have hp := hA.written_id p rfl
    cases wB with
    | none => simp only [hA.holds, hB.holds]
    | some q =>
      -- two writes meet: each replaces the interface under its own id only
      have hq := hB.written_id q rfl
      simp only [hA.holds, hB.holds]
      constructor
      · rintro (rfl | ⟨hi, rfl | ⟨hj, hy⟩⟩)
        · exact Or.inr ⟨by rwa [hp], Or.inl rfl⟩
        · exact Or.inl rfl
        · exact Or.inr ⟨hj, Or.inr ⟨hi, hy⟩⟩
      · rintro (rfl | ⟨hj, rfl | ⟨hi, hy⟩⟩)
        · exact Or.inr ⟨by rw [hq]; exact hne.symm, Or.inl rfl⟩
        · exact Or.inl rfl
        · exact Or.inr ⟨hi, Or.inr ⟨hj, hy⟩⟩

/-- The entries of an interface without their numbers, oldest first. -/
def entriesOf (t : Tables) (id : Int) : List LogColumns :=
  (t.log.map (·.toLogColumns)).filter fun c => c.interfaceId = id

lemma Updated.entriesOf_eq (hA : Updated key t i wA eA t₁) (id : Int) :
    t₁.entriesOf id = t.entriesOf id ++ if id = i then eA.toList else [] := by
  rw [entriesOf, hA.log, List.filter_append, entriesOf]
  congr 1
  cases eA with
  | none => simp
  | some c =>
    have hc := hA.entry_id c rfl
    by_cases hid : id = i
    · simp [hc, hid]
    · simp [hc, hid, Ne.symm hid]

lemma Updated.entriesOf_comm (hA : Updated key t i wA eA t₁) (hAB : Updated key t₁ j wB eB t₁₂)
    (hB : Updated key t j wB eB t₂) (hBA : Updated key t₂ i wA eA t₂₁) (hne : i ≠ j) (id : Int) :
    t₂₁.entriesOf id = t₁₂.entriesOf id := by
  rw [hBA.entriesOf_eq, hB.entriesOf_eq, hAB.entriesOf_eq, hA.entriesOf_eq]
  by_cases hid : id = i
  · simp [hid, hne]
  · simp [hid]

/-- An update of an interface clashes with nothing that had no identity in common with the interface
and has none with what is written. -/
lemma Updated.clashes_iff (hk : key.length = SecretBox.keySize) (ht : t.Sound key)
    (hB : Updated key t j wB eB t₂) {b : Interface} (hb : t.Holds key b) (hj : b.id = j)
    {x : Interface} (hxb : x.Apart b) (hxw : ∀ y, wB = some y → x.Apart y) (k : Identity) :
    t₂.Clashes key i x k ↔ t.Clashes key i x k := by
  constructor
  · rintro ⟨y, hy, hne, hshares⟩
    have hy := (hB.holds y).mp hy
    cases wB with
    | none => exact ⟨y, hy, hne, hshares⟩
    | some z =>
      rcases hy with rfl | ⟨-, hy⟩
      · exact absurd hshares.symm (hxw y rfl k)
      · exact ⟨y, hy, hne, hshares⟩
  · rintro ⟨y, hy, hne, hshares⟩
    refine ⟨y, (hB.holds y).mpr ?_, hne, hshares⟩
    cases wB with
    | none => exact hy
    | some z =>
      refine Or.inr ⟨fun hid => ?_, hy⟩
      rw [ht.holds_unique hk hy hb (hid.trans hj.symm)] at hshares
      exact hxb k hshares.symm

end Tables

/-! ## Updates of two interfaces -/

namespace Call

/-- The interface that a call is about, and the one that it is to write. -/
def Concerns (a : Interface) (c : Call Interface) (x : Interface) : Prop :=
  x = a ∨ c.writes? = some x

/-- Nothing that one call concerns has an identity in common with something that the other does. -/
def Separate (a : Interface) (c : Call Interface) (b : Interface) (d : Call Interface) : Prop :=
  ∀ x, c.Concerns a x → ∀ y, d.Concerns b y → x.Apart y

variable {s : Store} {t t₁ t₂ : Tables} {a b : Interface} {A B : Call Interface}

lemma Separate.symm (h : Separate a A b B) : Separate b B a A :=
  fun y hy x hx => (h x hx y hy).symm

/-- An update of another interface leaves what is stored of this one. -/
lemma holds_after_update (config : Config) (hk : s.key.length = SecretBox.keySize) (now : Int)
    (e : Entropy) (ht : t.Sound s.key) (ha : t.Holds s.key a) (hb : t.Holds s.key b)
    (hne : a.id ≠ b.id) (hB : B.Updates b.id) : ((B.change config s now e).after t).Holds s.key a := by
  rw [(updated config hk now e ht hb hB).holds]
  split
  · exact ha
  · exact Or.inr ⟨hne, ha⟩

/-- An update of another interface leaves the reasons to refuse this one. -/
lemma clash?_after_update (config : Config) (hk : s.key.length = SecretBox.keySize) (now : Int)
    (e : Entropy) (ht : t.Sound s.key) (hb : t.Holds s.key b) (hB : B.Updates b.id)
    (hsep : Separate a A b B) :
    A.clash? ((B.change config s now e).after t) = A.clash? t := by
  have hupdated := updated config hk now e ht hb hB
  unfold clash?
  cases hx : A.writes? with
  | none => rfl
  | some x =>
    have hapart : ∀ y, B.Concerns b y → x.Apart y := hsep x (Or.inr hx)
    refine ht.conflict?_congr hupdated.sound fun k => ?_
    refine hupdated.clashes_iff hk ht hb rfl (hapart b (Or.inl rfl)) (fun y hy => ?_) k
    rw [outcome_eq_verdict config now e ht hb hB] at hy
    exact hapart y (Or.inr (hB.writes?_of_written? hy))

/-- One id of the log is left, and of two calls that end so each is to take it. -/
structure Rivals (last : Int) (A : Call Interface) (r : Except Failure Answer)
    (B : Call Interface) (q : Except Failure Answer) : Prop where
  left : last + 1 = maxInteger
  first : ∃ i answer, A.enters? = some i ∧ r = .ok answer
  second : ∃ i answer, B.enters? = some i ∧ q = .ok answer

lemma Rivals.symm {last : Int} {r q : Except Failure Answer} (h : Rivals last A r B q) :
    Rivals last B q A r := ⟨h.left, h.second, h.first⟩

/-- A call that was to add an entry and has succeeded has taken an id of the log. -/
lemma Updates.lastLogId_of_ok (config : Config) (hk : s.key.length = SecretBox.keySize) (now : Int)
    (e : Entropy) (ht : t.Sound s.key) (hb : t.Holds s.key b) (hB : B.Updates b.id) {i : Interface}
    {answer : Answer} (henters : B.enters? = some i)
    (hok : (B.change config s now e).outcome t = .ok answer) :
    ((B.change config s now e).after t).lastLogId = t.lastLogId + 1 := by
  have hlast := (updated config hk now e ht hb hB).last
  have hverdict := hok
  rw [outcome_eq_verdict config now e ht hb hB] at hverdict
  have hadded := hB.entered?_eq 0 hverdict
  simp only [henters] at hadded
  obtain ⟨entry, hentered⟩ := hadded
  rw [hok, hentered] at hlast
  exact hlast

/-- A call that has left another last id has added an entry, for which there was room. -/
lemma Updates.of_lastLogId_ne (config : Config) (hk : s.key.length = SecretBox.keySize) (now : Int)
    (e : Entropy) (ht : t.Sound s.key) (hb : t.Holds s.key b) (hB : B.Updates b.id)
    (hne : ((B.change config s now e).after t).lastLogId ≠ t.lastLogId) :
    t.lastLogId ≠ maxInteger ∧
      ∃ i answer, B.enters? = some i ∧ (B.change config s now e).outcome t = .ok answer := by
  have hlast := (updated config hk now e ht hb hB).last
  rw [outcome_eq_verdict config now e ht hb hB] at hlast ⊢
  cases hadded : B.entered? now 0 (B.verdict now (B.clash? t) t.lastLogId) with
  | none =>
    rw [hadded] at hlast
    exact absurd (by simpa using hlast) hne
  | some added => exact (hB.enters?_of_entered? hadded).2

/-- After an update of another interface a call is refused if the update is a rival, and ends as it
does before it otherwise. -/
theorem outcome_after_update (config : Config) (hk : s.key.length = SecretBox.keySize) (now : Int)
    (e e' f : Entropy) (ht : t.Sound s.key) (ha : t.Holds s.key a) (hb : t.Holds s.key b)
    (hne : a.id ≠ b.id) (hA : A.Updates a.id) (hB : B.Updates b.id) (hsep : Separate a A b B)
    (ht₂ : t₂ = (B.change config s now f).after t) :
    (Rivals t.lastLogId A ((A.change config s now e).outcome t) B
        ((B.change config s now f).outcome t) →
      ∃ i, A.enters? = some i ∧
        (A.change config s now e').outcome t₂ = .error (.agent (Tables.logFull i))) ∧
    (¬ Rivals t.lastLogId A ((A.change config s now e).outcome t) B
        ((B.change config s now f).outcome t) →
      SameOutcome ((A.change config s now e).outcome t)
        ((A.change config s now e').outcome t₂)) := by
  have hholds := holds_after_update config hk now f ht ha hb hne hB
  have hsound := (updated config hk now f ht hb hB).sound
  have hafter : (A.change config s now e').outcome t₂ = A.verdict now (A.clash? t) t₂.lastLogId := by
    rw [ht₂, outcome_eq_verdict config now e' hsound hholds hA,
      clash?_after_update config hk now f ht hb hB hsep]
  have hbefore := outcome_eq_verdict config now e ht ha hA
  refine ⟨fun hrivals => ?_, fun hnot => ?_⟩
  · obtain ⟨j, y, hj, hokB⟩ := hrivals.second
    obtain ⟨i, x, hi, hokA⟩ := hrivals.first
    have hlast := hB.lastLogId_of_ok config hk now f ht hb hj hokB
    rw [hbefore] at hokA
    refine ⟨i, hi, ?_⟩
    rw [hafter, ht₂, hlast, hrivals.left]
    exact verdict_of_full hi hokA
  · rw [hafter, hbefore]
    -- an update that has added nothing leaves the same last id; one that has may have taken the last
    by_cases hlast : t₂.lastLogId = t.lastLogId
    · rw [hlast]
      rfl
    · obtain ⟨hroom, j, y, hj, hokB⟩ :=
        hB.of_lastLogId_ne config hk now f ht hb (by rwa [← ht₂])
      have hnext := hB.lastLogId_of_ok config hk now f ht hb hj hokB
      refine (verdict_cases hroom).resolve_right ?_
      rintro ⟨hfull, i, x, hi, hokA, -⟩
      exact hnot ⟨by rw [← hnext, ← ht₂, hfull], ⟨i, x, hi, hbefore.trans hokA⟩, j, y, hj, hokB⟩

/-- Calls with the same outcome have written the same. -/
lemma written?_of_same {c : Call Interface} {r r' : Except Failure Answer} (h : SameOutcome r r')
    (config : Config) : c.written? config r' = c.written? config r := by
  rw [written?_unnumbered, h, ← written?_unnumbered]

lemma entered?_of_same {c : Call Interface} {r r' : Except Failure Answer} (h : SameOutcome r r')
    (now : Int) : (c.entered? now 0 r').map LogColumns.answered =
      (c.entered? now 0 r).map LogColumns.answered := by
  rw [entered?_unnumbered, h, ← entered?_unnumbered]

end Call

/-- Tables that hold the same interfaces, and the same entries about each, but for their numbers. -/
structure Tables.Alike (key : Bytes) (t t' : Tables) : Prop where
  left : t.Sound key
  right : t'.Sound key
  holds : ∀ y, t'.Holds key y ↔ t.Holds key y
  entries : ∀ id, t'.entriesOf id = t.entriesOf id

/-- Updates of two interfaces lead to the same tables in either order, if each ends in the same way in
both. -/
theorem Call.alike_of_same (config : Config) {s : Store} (hk : s.key.length = SecretBox.keySize)
    (now : Int) (eA eB eA' eB' : Entropy) {t t₁ t₂ : Tables} (ht : t.Sound s.key) {a b : Interface}
    (ha : t.Holds s.key a) (hb : t.Holds s.key b) (hne : a.id ≠ b.id) {A B : Call Interface}
    (hA : A.Updates a.id) (hB : B.Updates b.id)
    (ht₁ : t₁ = (A.change config s now eA).after t) (ht₂ : t₂ = (B.change config s now eB).after t)
    (hsameA : SameOutcome ((A.change config s now eA).outcome t)
      ((A.change config s now eA').outcome t₂))
    (hsameB : SameOutcome ((B.change config s now eB).outcome t)
      ((B.change config s now eB').outcome t₁)) :
    Tables.Alike s.key ((B.change config s now eB').after t₁)
      ((A.change config s now eA').after t₂) := by
  have hfirst := updated config hk now eA ht ha hA
  have hother := updated config hk now eB ht hb hB
  have hb₁ := holds_after_update config hk now eA ht hb ha hne.symm hA
  have ha₂ := holds_after_update config hk now eB ht ha hb hne hB
  rw [← ht₁] at hfirst hb₁
  rw [← ht₂] at hother ha₂
  have hsecond := updated config hk now eB' hfirst.sound hb₁ hB
  have hlast := updated config hk now eA' hother.sound ha₂ hA
  rw [written?_of_same hsameB, entered?_of_same hsameB] at hsecond
  rw [written?_of_same hsameA, entered?_of_same hsameA] at hlast
  exact ⟨hsecond.sound, hlast.sound, hfirst.holds_comm hsecond hother hlast hne,
    hfirst.entriesOf_comm hsecond hother hlast hne⟩

end MeshAgent
