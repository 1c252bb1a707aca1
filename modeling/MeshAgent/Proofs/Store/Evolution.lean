import MeshAgent.Proofs.Store.Blocks

/-!
# How tables evolve

Tables change by two kinds of single writes only: an interface is stored, or an entry is added to the
log. Whatever an operation does, the tables that it leaves have evolved by such writes from those that
it found, and the entries that were added on the way are those that adding them has answered.
-/
namespace MeshAgent

/-- Which interface a row is about, and what it is read as. -/
def LogRow.content (r : LogRow) : Int × Except Failure Entry :=
  (r.interfaceId, History.entryOfRow r)

/-- What a row is read as that holds what was answered. -/
def LogRow.answered (answered : Int × Entry) : Int × Except Failure Entry :=
  (answered.1, .ok answered.2)

namespace Tables

/-- Single writes lead from the tables `t` to others. The list holds what adding an entry has
answered each time, with the id of the interface that it is about. -/
inductive Evolves (s : Store) (t : Tables) : List (Int × Entry) → Tables → Prop
  | refl : Evolves s t [] t
  | stored {es : List (Int × Entry)} {t₁ t₂ : Tables} {now : Int} {e : Entropy} {i : Interface}
      {id : Int} :
    Evolves s t es t₁ → (Change.store s now e i).run t₁ = .ok (id, t₂) → Evolves s t es t₂
  | entered {es : List (Int × Entry)} {t₁ t₂ : Tables} {now : Int} {i : Interface}
      {operation : Operation} {state : State} {dirty : Bool} {message : String} {entry : Entry} :
    Evolves s t es t₁ → History.checkTime (now.fdiv 1000000) = .ok () →
    (Change.append now i operation state dirty message).run t₁ = .ok (entry, t₂) →
    Evolves s t (es ++ [(i.id, entry)]) t₂

variable {s : Store} {t t₁ t' : Tables} {es es' : List (Int × Entry)}

lemma Evolves.trans (h : t.Evolves s es t₁) (h' : t₁.Evolves s es' t') :
    t.Evolves s (es ++ es') t' := by
  induction h' with
  | refl => simpa using h
  | stored _ hrun ih => exact ih.stored hrun
  | entered _ hclock hrun ih =>
    rw [← List.append_assoc]
    exact ih.entered hclock hrun

lemma Sound.evolves (ht : t.Sound s.key) (h : t.Evolves s es t') : t'.Sound s.key := by
  induction h with
  | refl => exact ht
  | stored _ hrun ih => exact (ih.wrote hrun).1.sound
  | entered _ hclock hrun ih => exact (ih.logged hclock hrun).sound

/-- The log only grows, and the rows that are new are read as what was answered for them. -/
theorem Sound.log_evolves (ht : t.Sound s.key) (h : t.Evolves s es t') :
    ∃ rows, t'.log = t.log ++ rows ∧ rows.map LogRow.content = es.map LogRow.answered := by
  induction h with
  | refl => exact ⟨[], by simp, rfl⟩
  | stored hevolves hrun ih =>
    obtain ⟨rows, hlog, hread⟩ := ih
    exact ⟨rows, by rw [((ht.evolves hevolves).wrote hrun).1.log, hlog], hread⟩
  | entered hevolves hclock hrun ih =>
    obtain ⟨rows, hlog, hread⟩ := ih
    obtain ⟨r, hrow, hid, hentry⟩ := ((ht.evolves hevolves).logged hclock hrun).log
    refine ⟨rows ++ [r], by rw [hrow, hlog, List.append_assoc], ?_⟩
    simp [hread, LogRow.content, LogRow.answered, hid, hentry]

end Tables

/-! ## What refers to an interface -/

namespace Tables

variable {s : Store} {t t₁ t' : Tables} {es : List (Int × Entry)}

/-- Every row of a peer and of the log refers to an interface that is stored. -/
structure Linked (t : Tables) : Prop where
  peers : ∀ p ∈ t.peers, t.hasInterface p.interfaceId = true
  log : ∀ r ∈ t.log, t.hasInterface r.interfaceId = true

lemma linked_empty : Linked {} := ⟨by simp, by simp⟩

lemma interfaceId_of_mem_addPeers {id : Int} {ps : List Device} {p : PeerRow}
    (h : p ∈ (t.addPeers id ps).peers) : p ∈ t.peers ∨ p.interfaceId = id := by
  induction ps generalizing t with
  | nil => exact Or.inl h
  | cons d ps ih =>
    rcases @ih (t.addPeer id d.toPeerColumns) h with hmem | hid
    · rcases List.mem_append.mp hmem with hmem | hnew
      · exact Or.inl hmem
      · rw [List.mem_singleton.mp hnew]
        exact Or.inr rfl
    · exact Or.inr hid

lemma interfaceId_of_mem_replacePeers {id : Int} {ps : List Device} {p : PeerRow}
    (h : p ∈ (t.replacePeers id ps).peers) : p ∈ t.peers ∨ p.interfaceId = id :=
  (interfaceId_of_mem_addPeers h).imp_left fun hp => (List.mem_filter.mp hp).1

/-- A write keeps every interface that is stored, and adds the one that is written. -/
lemma Sound.hasInterface_stored (ht : t.Sound s.key) {now : Int} {e : Entropy} {i : Interface}
    {id : Int} (h : (Change.store s now e i).run t = .ok (id, t')) :
    t'.hasInterface id = true ∧
      ∀ j, t.hasInterface j = true → t'.hasInterface j = true := by
  obtain ⟨-, -, t₁, hup, rfl⟩ := Change.store_eq_ok h
  obtain ⟨row, hrow, -, -, hmem⟩ := ht.orderly.rows_upsert hup
  have hthere : (t₁.replacePeers id i.peers).hasInterface id = true :=
    hasInterface_iff.mpr ⟨row, by simpa using (hmem row).mpr (Or.inl rfl), hrow⟩
  refine ⟨hthere, fun j hj => ?_⟩
  obtain ⟨r, hr, hid⟩ := hasInterface_iff.mp hj
  by_cases hsame : r.id = id
  · rw [← hid, hsame]
    exact hthere
  · exact hasInterface_iff.mpr ⟨r, by simpa using (hmem r).mpr (Or.inr ⟨hr, hsame⟩), hid⟩

lemma Linked.stored (hl : t.Linked) (ht : t.Sound s.key) {now : Int} {e : Entropy} {i : Interface}
    {id : Int} (h : (Change.store s now e i).run t = .ok (id, t')) : t'.Linked := by
  obtain ⟨hid, hkept⟩ := ht.hasInterface_stored h
  constructor
  case peers =>
    intro p hp
    obtain ⟨-, -, t₁, hup, rfl⟩ := Change.store_eq_ok h
    rcases interfaceId_of_mem_replacePeers hp with hold | hnew
    · obtain ⟨-, -, rfl⟩ := upsertInterface_eq_ok hup
      exact hkept _ (hl.peers p hold)
    · rwa [hnew]
  case log =>
    intro r hr
    rw [(ht.wrote h).1.log] at hr
    exact hkept _ (hl.log r hr)

lemma Linked.entered (hl : t.Linked) {now : Int} {i : Interface} {operation : Operation}
    {state : State} {dirty : Bool} {message : String} {entry : Entry}
    (h : (Change.append now i operation state dirty message).run t = .ok (entry, t')) :
    t'.Linked := by
  obtain ⟨-, hthere, -, rfl⟩ := Change.append_eq_ok h
  refine ⟨hl.peers, fun r hr => ?_⟩
  rcases List.mem_append.mp hr with hold | hnew
  · exact hl.log r hold
  · rw [List.mem_singleton.mp hnew]
    exact hthere

lemma Linked.evolves (hl : t.Linked) (ht : t.Sound s.key) (h : t.Evolves s es t') :
    t'.Linked := by
  induction h with
  | refl => exact hl
  | stored hevolves hrun ih => exact ih.stored (ht.evolves hevolves) hrun
  | entered _ _ hrun ih => exact ih.entered hrun

end Tables

/-! ## Calls -/

open Change in
/-- A call adds the entry that its answer tells, and otherwise at most stores an interface. -/
theorem Call.evolves (config : Config) (s : Store) (now : Int) (e : Entropy) (t : Tables)
    (c : Call Interface) :
    t.Evolves s
      (c.entered? now (t.lastLogId + 1) ((c.change config s now e).outcome t)).toList
      ((c.change config s now e).after t) := by
  cases hrun : (c.change config s now e).run t with
  | error f =>
    rw [outcome_of_error hrun, after_of_error hrun, entered?_error]
    exact .refl
  | ok r =>
    rw [outcome_of_ok hrun, after_of_ok hrun]
    cases c.did hrun with
    | looked htold =>
      rw [htold.entered]
      exact .refl
    | stored hstore htold =>
      rw [htold.entered]
      exact Tables.Evolves.refl.stored hstore
    | entered hclock happend htold =>
      rw [htold.entered]
      exact Tables.Evolves.refl.entered hclock happend
    | both hstore hclock happend htold =>
      rw [htold.entered]
      exact (Tables.Evolves.refl.stored hstore).entered hclock happend

/-! ## Callbacks -/

namespace Transaction

variable {α β γ : Type} {before : Tables} {m : Progress} {P : List γ → Tables → Prop}
  {l : List γ}

/-- What is noted, after a step from one phase to another that has made a note of `added`. With a
transaction that it gives up, the database takes back what had been noted in it. -/
def Phase.entriesAfter (p p' : Phase) (l added : List γ) : List γ :=
  if p'.givenUp && !p.givenUp then [] else l ++ added

lemma Phase.entriesAfter_nil {p p' : Phase} (h : p'.givenUp = p.givenUp) (l : List γ) :
    p.entriesAfter p' l [] = l := by
  simp [entriesAfter, h]

lemma Phase.entriesAfter_put (p : Phase) (t' : Tables) (l added : List γ) :
    p.entriesAfter (p.put t') l added = l ++ added := by
  rcases p with _ | ⟨_ | _, _⟩ | _ | _ <;> rfl

lemma Phase.All.of_same {p p' : Phase} {added : List γ} (hp : p'.All (P l))
    (h : p'.givenUp = p.givenUp) (hadded : added = []) :
    p'.All (P (p.entriesAfter p' l added)) := by
  rwa [hadded, entriesAfter_nil h]

/-- When a statement is refused, the tables are as they were, or as they were at the beginning. -/
lemma Phase.All.after_refuse {p : Phase} (hp : p.All (P l)) (hbefore : P [] before) (f : Failure) :
    (p.refuse before f).All (P (p.entriesAfter (p.refuse before f) l [])) := by
  cases p with
  | underWay t =>
    simp only [Phase.refuse]
    split
    · exact hbefore
    · exact of_same hp rfl rfl
  | rolledBack => trivial
  | _ => exact of_same hp rfl rfl

/-- What a change makes of the tables and of the notes about them, it also makes of them in the course
of a transaction. -/
lemma Progress.all_apply {c : Change α} (hbefore : P [] before)
    (added : Except Failure α → List γ) (herror : ∀ f, added (.error f) = [])
    (hc : ∀ t t' a, m.phase.tables? = some t → P l t → c.run t = .ok (a, t') →
      P (l ++ added (.ok a)) t')
    (hm : m.phase.All (P l)) :
    (m.apply before c).2.phase.All
      (P (m.phase.entriesAfter (m.apply before c).2.phase l (added (m.apply before c).1))) := by
  cases hp : m.phase.tables? with
  | none =>
    rw [Progress.apply_of_over hp]
    exact hm.of_same rfl (herror _)
  | some t =>
    cases hrun : c.run t with
    | error f =>
      rw [Progress.apply_of_error hp hrun, herror]
      exact hm.after_refuse hbefore f
    | ok r =>
      obtain ⟨a, t'⟩ := r
      rw [Progress.apply_of_ok hp hrun, Progress.put, Phase.entriesAfter_put]
      exact Phase.all_put hp (hc t t' a hp (hm.of_tables hp) hrun)

lemma Progress.all_guarded {check : Except Failure β} {draws : Nat} {c : β → Change α}
    (hbefore : P [] before) (added : Except Failure α → List γ)
    (herror : ∀ f, added (.error f) = [])
    (hc : ∀ b, check = .ok b → ∀ t t' a, m.phase.tables? = some t → P l t →
      (c b).run t = .ok (a, t') → P (l ++ added (.ok a)) t')
    (hm : m.phase.All (P l)) :
    (m.guarded before check draws c).2.phase.All
      (P (m.phase.entriesAfter (m.guarded before check draws c).2.phase l
        (added (m.guarded before check draws c).1))) := by
  cases check with
  | error f =>
    rw [Progress.guarded]
    exact hm.of_same rfl (herror _)
  | ok b =>
    exact Progress.all_apply (m := { m with entropy := m.entropy.skip draws }) hbefore added herror
      (hc b rfl) hm

end Transaction

namespace HandleCall

open Transaction

/-- Whether a step writes. -/
def writes {ι : Type} : HandleCall ι → Bool
  | ensure _ => true
  | append .. => true
  | _ => false

variable {γ : Type} {s : Store} {now : Int} {before : Tables} {m : Progress}
  {P : List γ → Tables → Prop} {l : List γ}

/-- Of all steps only two change tables: one stores an interface, the other one adds an entry. -/
theorem all_effect (c : HandleCall Interface) (hbefore : P [] before)
    (added : Except Failure Answer → List γ) (herror : ∀ f, added (.error f) = [])
    (hreads : c.writes = false → ∀ r, added r = [])
    (hstored : ∀ i, c = .ensure i → ∀ t t' id, m.phase.tables? = some t → P l t →
      (Change.store s now m.entropy i).run t = .ok (id, t') → P (l ++ added (.ok (.id id))) t')
    (hentered : ∀ i operation state dirty message, c = .append i operation state dirty message →
      ∀ t t' (names : Operation × State) e, m.phase.tables? = some t → P l t →
      History.checkTime (now.fdiv 1000000) = .ok () →
      (Change.append now i names.1 names.2 dirty message).run t = .ok (e, t') →
      P (l ++ added (.ok (.entry (some e)))) t')
    (hm : m.phase.All (P l)) :
    (c.effect s now before m).2.phase.All
      (P (m.phase.entriesAfter (c.effect s now before m).2.phase l
        (added (c.effect s now before m).1))) := by
  cases c with
  | ensure i =>
    refine Progress.all_guarded hbefore added herror (fun u hcheck t t' answer hp ht hrun => ?_) hm
    obtain ⟨id, hid, rfl⟩ := Change.run_map_eq_ok hrun
    have hstore : (Change.store s now m.entropy i).run t = .ok (id, t') := by
      rw [Change.store, hcheck]
      exact hid
    exact hstored i rfl t t' id hp ht hstore
  | append i operation state dirty message =>
    refine Progress.all_guarded hbefore added herror
      (fun names hnames t t' answer hp ht hrun => ?_) hm
    obtain ⟨e, he, rfl⟩ := Change.run_map_eq_ok hrun
    exact hentered i operation state dirty message rfl t t' names e hp ht
      (Change.checkTime_of_checkNamed hnames) he
  | last i => exact hm.of_same rfl (hreads rfl _)
  | lastNamed device network => exact hm.of_same rfl (hreads rfl _)
  | commit =>
    obtain ⟨phase, e⟩ := m
    cases phase <;> exact Phase.All.of_same hm rfl (hreads rfl _)
  | rollback =>
    obtain ⟨phase, e⟩ := m
    cases phase with
    | underWay t => trivial
    | rolledBack => trivial
    | _ => exact Phase.All.of_same hm rfl (hreads rfl _)
  | isFinished => exact hm.of_same rfl (hreads rfl _)

end HandleCall

namespace HandleCall

open Transaction

/-- The entry that a step has added, with the id of its interface. -/
def entered? : HandleCall Interface → Except Failure Answer → Option (Int × Entry)
  | append i .., .ok (.entry (some e)) => some (i.id, e)
  | _, _ => none

lemma entered?_error (c : HandleCall Interface) (f : Failure) :
    c.entered? (.error f) = none := by cases c <;> rfl

variable {s : Store} {now : Int} {t : Tables} {es : List (Int × Entry)} {m : Progress}

/-- A step adds the entry that it answers, and otherwise at most stores an interface. -/
lemma evolves_effect (c : HandleCall Interface) (hm : m.phase.All (t.Evolves s es)) :
    (c.effect s now t m).2.phase.All
      (t.Evolves s (m.phase.entriesAfter (c.effect s now t m).2.phase es
        (c.entered? (c.effect s now t m).1).toList)) := by
  refine c.all_effect (P := t.Evolves s) .refl (fun r => (c.entered? r).toList) ?_ ?_ ?_ ?_ hm
  case refine_1 =>
    intro f
    rw [entered?_error]
    rfl
  case refine_2 =>
    intro hc r
    cases c with
    | append i operation state dirty message => cases hc
    | _ => rfl
  case refine_3 =>
    rintro i rfl t₁ t₂ id - ht₁ hstore
    simpa [entered?] using ht₁.stored hstore
  case refine_4 =>
    rintro i operation state dirty message rfl t₁ t₂ names e - ht₁ hclock happend
    exact ht₁.entered hclock happend

end HandleCall

namespace Callback

open Transaction

variable {α : Type} {s : Store} {now : Int} {t : Tables} {es : List (Int × Entry)}

/-- The entries that the steps of a callback answer, in their order. -/
def entries (s : Store) (now : Int) (before : Tables) :
    Callback α → Progress → List (Int × Entry)
  | done _, _ => []
  | fail _, _ => []
  | step c next, m =>
    (c.entered? (c.effect s now before m).1).toList ++
      (next (c.effect s now before m).1).entries s now before (c.effect s now before m).2

/-- The entries that are there after a callback, where those of `es` were there before it. -/
def entriesAfter (s : Store) (now : Int) (before : Tables) :
    Callback α → Progress → List (Int × Entry) → List (Int × Entry)
  | done _, _, es => es
  | fail _, _, es => es
  | step c next, m, es =>
    (next (c.effect s now before m).1).entriesAfter s now before (c.effect s now before m).2
      (m.phase.entriesAfter (c.effect s now before m).2.phase es
        (c.entered? (c.effect s now before m).1).toList)

/-- In the course of a callback the tables evolve by the entries of its steps. -/
theorem evolves_course (b : Callback α) {m : Progress} (hm : m.phase.All (t.Evolves s es)) :
    (b.course s now t m).2.phase.All (t.Evolves s (b.entriesAfter s now t m es)) := by
  induction b generalizing m es with
  | done a => exact hm
  | fail f => exact hm
  | step c next ih => exact ih _ (c.evolves_effect hm)

/-- Where the database does not give the transaction up, it takes no entries back. -/
lemma entriesAfter_eq (b : Callback α) {m : Progress}
    (hend : (b.course s now t m).2.phase.givenUp = false) (es : List (Int × Entry)) :
    b.entriesAfter s now t m es = es ++ b.entries s now t m := by
  induction b generalizing m es with
  | done a => exact (List.append_nil es).symm
  | fail f => exact (List.append_nil es).symm
  | step c next ih =>
    have hnot : (c.effect s now t m).2.phase.givenUp = false :=
      Bool.eq_false_iff.mpr fun h => by rw [course, givenUp_course _ _ _ _ h] at hend; cases hend
    rw [entriesAfter, ih _ hend, entries, Phase.entriesAfter, hnot, Bool.false_and,
      if_neg Bool.false_ne_true, List.append_assoc]

end Callback

end MeshAgent
