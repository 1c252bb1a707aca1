import MeshAgent.Proofs.Store.Outcomes

/-!
# Verdicts

How a call ends that updates a stored interface can be told without running it. It needs two things
of the tables: whether another interface has one of the identities that it writes, and the last id of
the log.
-/
namespace MeshAgent

lemma Key.format_inj {k l : Bytes} : Key.format k = Key.format l ↔ k = l := by
  constructor
  · intro h
    have hdecode := congrArg Base64.decode h
    rw [Key.format, Key.format, Base64.decode_encode, Base64.decode_encode] at hdecode
    exact Except.ok.inj hdecode
  · rintro rfl
    rfl

namespace Interface

/-- Two interfaces have an identity in common. -/
def Shares (k : Identity) (a b : Interface) : Prop :=
  match k with
  | .publicKey => a.device.publicKey = b.device.publicKey
  | .networkAndDeviceName => a.network.name = b.network.name ∧ a.device.name = b.device.name
  | .deviceId => a.device.id = b.device.id

/-- Two interfaces have no identity in common. -/
def Apart (a b : Interface) : Prop := ∀ k, ¬ a.Shares k b

lemma Shares.symm {k : Identity} {a b : Interface} (h : a.Shares k b) : b.Shares k a := by
  cases k with
  | publicKey => exact Eq.symm h
  | networkAndDeviceName => exact ⟨h.1.symm, h.2.symm⟩
  | deviceId => exact Eq.symm h

lemma Apart.symm {a b : Interface} (h : a.Apart b) : b.Apart a := fun k hk => h k hk.symm

/-- The columns of two interfaces have an identity in common exactly if the interfaces do. -/
lemma shared_toColumns {k : Identity} {a b : Interface} {s t s' t' : Bytes} :
    k.shared (a.toColumns s t) (b.toColumns s' t') = true ↔ a.Shares k b := by
  cases k with
  | publicKey => exact decide_eq_true_iff.trans Key.format_inj
  | networkAndDeviceName =>
    exact Bool.and_eq_true_iff.trans (and_congr decide_eq_true_iff decide_eq_true_iff)
  | deviceId => exact decide_eq_true_iff

end Interface

lemma InterfaceRow.Stores.shared_iff {key : Bytes} {a b : Interface} {peers : List PeerColumns}
    {r : InterfaceRow} (h : r.Stores key a peers) (k : Identity) :
    k.shared r.toInterfaceColumns (b.toColumns [] []) = true ↔ a.Shares k b := by
  obtain ⟨n₁, n₂, -, -, hcols⟩ := h.columns
  rw [hcols, Interface.shared_toColumns]

namespace Tables

variable {key : Bytes} {t t' : Tables} {id : Int} {x : Interface}

/-- Another interface than the one under the id has an identity in common with `x`. -/
def Clashes (key : Bytes) (t : Tables) (id : Int) (x : Interface) (k : Identity) : Prop :=
  ∃ y, t.Holds key y ∧ y.id ≠ id ∧ y.Shares k x

lemma Sound.any_shared_iff (ht : t.Sound key) (k : Identity) :
    (t.interfaces.any fun r =>
      some r.id ≠ some id && k.shared r.toInterfaceColumns (x.toColumns [] [])) = true ↔
      t.Clashes key id x k := by
  simp only [List.any_eq_true, Bool.and_eq_true, decide_eq_true_eq, ne_eq, Option.some.injEq]
  constructor
  · rintro ⟨r, hr, hne, hshared⟩
    obtain ⟨y, hy, hstores⟩ := ht.exists_holds hr
    exact ⟨y, hy, by rwa [← hstores.id], (hstores.shared_iff k).mp hshared⟩
  · rintro ⟨y, ⟨r, hr, hstores⟩, hne, hshares⟩
    exact ⟨r, hr, by rwa [hstores.id], (hstores.shared_iff k).mpr hshares⟩

/-- Tables with the same clashes refuse the same writes for the same reason. -/
lemma Sound.conflict?_congr (ht : t.Sound key) (ht' : t'.Sound key)
    (h : ∀ k, t'.Clashes key id x k ↔ t.Clashes key id x k) :
    t'.conflict? (some id) (x.toColumns [] []) = t.conflict? (some id) (x.toColumns [] []) := by
  refine congrArg (fun p => Identity.all.find? p) (funext fun k => ?_)
  rw [Bool.eq_iff_iff, ht'.any_shared_iff, ht.any_shared_iff, h k]

end Tables

/-! ## Calls that update a stored interface -/

namespace Interface

/-- How a write of an interface with an id ends, if `clash` is an identity that another one has. -/
def storedUnless (i : Interface) (now : Int) (clash : Option Identity) : Except Failure Int := do
  orFail (i.checkKeys (.upsertInterface i.label))
  if (i.numbers now).any fun n => !fitsColumn n then .error .integerRange
  else
    DatabaseProblem.explained (.upsertInterface i.label) none
      (match clash with
        | some k => .error (.notUnique (some k.name))
        | none => .ok i.id)

lemma id_of_storedUnless {i : Interface} {now : Int} {clash : Option Identity} {id : Int}
    (h : i.storedUnless now clash = .ok id) : id = i.id := by
  obtain ⟨u, -, h⟩ := Except.bind_eq_ok.mp h
  split at h
  · exact nomatch h
  · cases clash with
    | some k => exact nomatch h
    | none => exact (Except.ok.inj h).symm

end Interface

lemma Tables.stores_eq (t : Tables) (now : Int) {i : Interface} (hi : 0 < i.id) :
    t.stores now i = i.storedUnless now (t.conflict? (some i.id) (i.toColumns [] [])) := by
  have hgiven : i.givenId = some i.id := if_pos hi
  have haccepts : t.accepts i.givenId (i.toColumns [] []) =
      match t.conflict? (some i.id) (i.toColumns [] []) with
      | some k => .error (.notUnique (some k.name))
      | none => .ok i.id := by
    rw [hgiven]
    rfl
  unfold stores Interface.storedUnless
  rw [haccepts]

lemma Tables.appends_eq {t : Tables} {i : Interface} (hfits : fitsColumn i.id = true)
    (hthere : t.hasInterface i.id = true) (now : Int) (operation : Operation) (state : State)
    (dirty : Bool) (message : String) :
    t.appends now i operation state dirty message =
      if t.lastLogId = maxInteger then .error (.agent (logFull i))
      else .ok { id := t.lastLogId + 1, seconds := now.fdiv 1000000, operation, state, dirty
                 message } := by
  rw [appends, nextLogId, hfits, hthere]
  by_cases hfull : t.lastLogId = maxInteger
  · rw [if_pos hfull, if_pos hfull]
    rfl
  · rw [if_neg hfull, if_neg hfull]
    rfl

/-- An answer without the number of the entry in it. -/
def Answer.unnumbered : Answer → Answer
  | entry e => entry (e.map fun e => { e with id := 0 })
  | a => a

namespace Call

/-- The call updates the interface under the id. -/
inductive Updates (id : Int) : Call Interface → Prop
  | ensure {i : Interface} : i.id = id → Updates id (ensure i)
  | refresh {i : Interface} {response : JoinResponse} {message : String} : i.id = id →
    Updates id (refresh i response message)
  | applied {i : Interface} {message : String} : i.id = id → Updates id (applied i message)
  | failed {i : Interface} {operation message : String} : i.id = id →
    Updates id (failed i operation message)

/-- The interface that the call is to write. -/
def writes? : Call Interface → Option Interface
  | ensure i => some i
  | refresh i response _ => some (Agent.refreshed i response)
  | _ => none

/-- The interface that the call is to add an entry about. -/
def enters? : Call Interface → Option Interface
  | refresh i response _ => some (Agent.refreshed i response)
  | applied i _ => some i
  | failed i _ _ => some i
  | _ => none

/-- The identity that another interface has in common with what the call writes. -/
def clash? (t : Tables) (c : Call Interface) : Option Identity :=
  c.writes?.bind fun x => t.conflict? (some x.id) (x.toColumns [] [])

/-- What the call is going to answer, given the id of its entry. -/
def prepare (now : Int) (clash : Option Identity) :
    Call Interface → Except Failure (Int → Answer)
  | ensure i => do
    let id ← i.storedUnless now clash
    return fun _ => .id id
  | refresh i response _ => do
    orFail (response.checkKeys .recordRefresh)
    let id ← (Agent.refreshed i response).storedUnless now clash
    History.checkTime (now.fdiv 1000000)
    return fun _ => .interface { Agent.refreshed i response with id }
  | applied _ message => do
    History.checkTime (now.fdiv 1000000)
    return fun id => .entry (some
      { id, seconds := now.fdiv 1000000, operation := .apply, state := .applied, dirty := false
        message })
  | failed _ operation message => do
    let names ← History.checkNamed now operation State.failed.name
    return fun id => .entry (some
      { id, seconds := now.fdiv 1000000, operation := names.1, state := names.2, dirty := true
        message })
  | _ => .ok fun _ => .nothing

/-- How the call ends, if `clash` is an identity that another interface has and `last` is the last id
of the log. -/
def verdict (now : Int) (clash : Option Identity) (last : Int) (c : Call Interface) :
    Except Failure Answer := do
  let answer ← c.prepare now clash
  match c.enters? with
  | none => .ok (answer 0)
  | some i =>
    if last = maxInteger then .error (.agent (Tables.logFull i)) else .ok (answer (last + 1))

variable {config : Config} {s : Store} {now : Int} {e : Entropy} {t : Tables} {a : Interface}
  {c : Call Interface}

open Change in
/-- A call that updates a stored interface ends as its verdict says. -/
theorem outcome_eq_verdict (config : Config) (now : Int) (e : Entropy) (ht : t.Sound s.key)
    (ha : t.Holds s.key a) (hc : c.Updates a.id) :
    (c.change config s now e).outcome t = c.verdict now (c.clash? t) t.lastLogId := by
  obtain ⟨r, hr, hstores⟩ := ha
  have hpos : 0 < a.id := hstores.id ▸ ht.pos r hr
  have hfits : fitsColumn a.id = true := hstores.id ▸ ht.fits hr
  have hthere : t.hasInterface a.id = true := Tables.hasInterface_iff.mpr ⟨r, hr, hstores.id⟩
  -- the look at the newest entry, which comes first, cannot fail on sound tables
  have hnewest : ∀ i : Interface, i.id = a.id → ∃ last, t.newest i = .ok last := by
    intro i hi
    obtain ⟨last, hlast, -⟩ := ht.newest_eq (i := i) (by rw [hi]; exact hfits)
    exact ⟨last, hlast⟩
  cases hc with
  | @ensure i hi =>
    rw [change, outcome_map, outcome_store, t.stores_eq now (by rw [hi]; exact hpos), verdict,
      prepare, clash?, writes?, Option.bind_some]
    cases i.storedUnless now (t.conflict? (some i.id) (i.toColumns [] [])) <;> rfl
  | @refresh i response message hi =>
    obtain ⟨last, hlast⟩ := hnewest (Agent.refreshed i response) hi
    have hstored := t.stores_eq now (i := Agent.refreshed i response)
      (show 0 < i.id by rw [hi]; exact hpos)
    simp only [change, outcome_map, outcome_guarded, outcome_logged, outcome_record ht.butLog,
      hlast, Tables.records, hstored]
    rw [verdict, prepare, clash?, writes?, Option.bind_some, enters?]
    generalize Agent.refreshed i response = i
    cases orFail (response.checkKeys .recordRefresh) with
    | error f => rfl
    | ok u =>
      cases i.storedUnless now (t.conflict? (some i.id) (i.toColumns [] [])) with
      | error f => rfl
      | ok id =>
        cases History.checkTime (now.fdiv 1000000) with
        | error f => rfl
        | ok u =>
          simp only [bind, Except.bind, pure, Except.pure]
          split <;> rfl
  | @applied i message hi =>
    obtain ⟨last, hlast⟩ := hnewest i hi
    simp only [change, outcome_map, outcome_logged, outcome_enter, hlast,
      Tables.appends_eq (i := i) (by rw [hi]; exact hfits) (by rw [hi]; exact hthere)]
    rw [verdict, prepare, enters?]
    cases History.checkTime (now.fdiv 1000000) with
    | error f => rfl
    | ok u =>
      simp only [bind, Except.bind, pure, Except.pure]
      split <;> rfl
  | @failed i operation message hi =>
    obtain ⟨last, hlast⟩ := hnewest i hi
    simp only [change, outcome_map, outcome_logged, outcome_enterNamed, hlast,
      Tables.appends_eq (i := i) (by rw [hi]; exact hfits) (by rw [hi]; exact hthere)]
    rw [verdict, prepare, enters?]
    cases History.checkNamed now operation State.failed.name with
    | error f => rfl
    | ok names =>
      simp only [bind, Except.bind, pure, Except.pure]
      split <;> rfl

lemma unnumbered_of_prepare {clash : Option Identity} {answer : Int → Answer}
    (h : c.prepare now clash = .ok answer) (m n : Int) :
    (answer m).unnumbered = (answer n).unnumbered := by
  cases c with
  | ensure i =>
    obtain ⟨id, -, h⟩ := Except.bind_eq_ok.mp h
    rw [← Except.ok.inj h]
  | refresh i response message =>
    obtain ⟨u, -, h⟩ := Except.bind_eq_ok.mp h
    obtain ⟨id, -, h⟩ := Except.bind_eq_ok.mp h
    obtain ⟨u, -, h⟩ := Except.bind_eq_ok.mp h
    rw [← Except.ok.inj h]
  | applied i message =>
    obtain ⟨u, -, h⟩ := Except.bind_eq_ok.mp h
    rw [← Except.ok.inj h]
    rfl
  | failed i operation message =>
    obtain ⟨names, -, h⟩ := Except.bind_eq_ok.mp h
    rw [← Except.ok.inj h]
    rfl
  | _ => rw [← Except.ok.inj h]

end Call

/-- Two outcomes are the same but for the number of an entry. -/
def SameOutcome (r r' : Except Failure Answer) : Prop :=
  r'.map Answer.unnumbered = r.map Answer.unnumbered

namespace Call

variable {now : Int} {c : Call Interface} {clash : Option Identity} {id last last' : Int}
  {answer : Answer}

/-- Of the log a verdict only needs to know whether it is full. -/
lemma verdict_cases (hlast : last ≠ maxInteger) :
    SameOutcome (c.verdict now clash last) (c.verdict now clash last') ∨
      last' = maxInteger ∧ ∃ i answer, c.enters? = some i ∧
        c.verdict now clash last = .ok answer ∧
        c.verdict now clash last' = .error (.agent (Tables.logFull i)) := by
  unfold verdict
  cases hprepare : c.prepare now clash with
  | error f => exact Or.inl rfl
  | ok answer =>
    cases henters : c.enters? with
    | none => exact Or.inl rfl
    | some i =>
      simp only [bind, Except.bind, if_neg hlast]
      by_cases hfull : last' = maxInteger
      · rw [if_pos hfull]
        exact Or.inr ⟨hfull, i, _, rfl, rfl, rfl⟩
      · rw [if_neg hfull]
        exact Or.inl (congrArg Except.ok (unnumbered_of_prepare hprepare _ _))

lemma Updates.writes?_id (hc : c.Updates id) {x : Interface} (hx : c.writes? = some x) :
    x.id = id := by
  cases hc with
  | ensure hi => exact Option.some.inj hx ▸ hi
  | refresh hi => exact Option.some.inj hx ▸ hi
  | applied hi => exact nomatch hx
  | failed hi => exact nomatch hx

/-- A call that succeeds answers what it was going to answer. -/
lemma exists_prepare (h : c.verdict now clash last = .ok answer) :
    ∃ answerOf n, c.prepare now clash = .ok answerOf ∧ answer = answerOf n := by
  obtain ⟨answerOf, hprepare, h⟩ := Except.bind_eq_ok.mp h
  cases henters : c.enters? with
  | none =>
    rw [henters] at h
    exact ⟨answerOf, 0, hprepare, (Except.ok.inj h).symm⟩
  | some i =>
    simp only [henters] at h
    split at h
    · exact nomatch h
    · exact ⟨answerOf, last + 1, hprepare, (Except.ok.inj h).symm⟩

/-- A call that succeeds has written what it was to write. -/
lemma Updates.written?_eq (hc : c.Updates id) (config : Config)
    (h : c.verdict now clash last = .ok answer) : c.written? config (.ok answer) = c.writes? := by
  obtain ⟨answerOf, n, hprepare, rfl⟩ := exists_prepare h
  cases hc with
  | @ensure i hi =>
    obtain ⟨id, hstored, hprepare⟩ := Except.bind_eq_ok.mp hprepare
    rw [← Except.ok.inj hprepare, Interface.id_of_storedUnless hstored]
    rfl
  | @refresh i response message hi =>
    obtain ⟨u, -, hprepare⟩ := Except.bind_eq_ok.mp hprepare
    obtain ⟨id, hstored, hprepare⟩ := Except.bind_eq_ok.mp hprepare
    obtain ⟨u, -, hprepare⟩ := Except.bind_eq_ok.mp hprepare
    rw [← Except.ok.inj hprepare, Interface.id_of_storedUnless hstored]
    rfl
  | applied hi => cases answerOf n <;> rfl
  | failed hi => cases answerOf n <;> rfl

/-- A call that succeeds has added the entry that it was to add. -/
lemma Updates.entered?_eq (hc : c.Updates id) (m : Int)
    (h : c.verdict now clash last = .ok answer) :
    match c.enters? with
    | none => c.entered? now m (.ok answer) = none
    | some _ => ∃ e, c.entered? now m (.ok answer) = some (id, e) := by
  obtain ⟨answerOf, n, hprepare, rfl⟩ := exists_prepare h
  cases hc with
  | @ensure i hi => cases answerOf n <;> rfl
  | @refresh i response message hi =>
    obtain ⟨u, -, hprepare⟩ := Except.bind_eq_ok.mp hprepare
    obtain ⟨j, hstored, hprepare⟩ := Except.bind_eq_ok.mp hprepare
    obtain ⟨u, -, hprepare⟩ := Except.bind_eq_ok.mp hprepare
    rw [← Except.ok.inj hprepare, Interface.id_of_storedUnless hstored]
    exact ⟨_, congrArg (fun j => some (j, _)) hi⟩
  | @applied i message hi =>
    obtain ⟨u, -, hprepare⟩ := Except.bind_eq_ok.mp hprepare
    rw [← Except.ok.inj hprepare]
    exact ⟨_, congrArg (fun j => some (j, _)) hi⟩
  | @failed i operation message hi =>
    obtain ⟨names, -, hprepare⟩ := Except.bind_eq_ok.mp hprepare
    rw [← Except.ok.inj hprepare]
    exact ⟨_, congrArg (fun j => some (j, _)) hi⟩

/-- What a call has written is what it was to write. -/
lemma Updates.writes?_of_written? (hc : c.Updates id) {config : Config} {x : Interface}
    (h : c.written? config (c.verdict now clash last) = some x) : c.writes? = some x := by
  cases hverdict : c.verdict now clash last with
  | error f =>
    rw [hverdict, written?_error] at h
    exact nomatch h
  | ok answer => rwa [hverdict, hc.written?_eq config hverdict] at h

/-- What would succeed otherwise is refused if its entry finds the log full. -/
lemma verdict_of_full {i : Interface} (henters : c.enters? = some i)
    (h : c.verdict now clash last = .ok answer) :
    c.verdict now clash maxInteger = .error (.agent (Tables.logFull i)) := by
  obtain ⟨answerOf, n, hprepare, -⟩ := exists_prepare h
  rw [verdict, hprepare, henters]
  rfl

/-- A call that has added an entry was to add one about its interface, and the log had room for it. -/
lemma Updates.enters?_of_entered? (hc : c.Updates id) {m : Int} {added : Int × Entry}
    (h : c.entered? now m (c.verdict now clash last) = some added) :
    added.1 = id ∧ last ≠ maxInteger ∧
      ∃ i answer, c.enters? = some i ∧ c.verdict now clash last = .ok answer := by
  cases hverdict : c.verdict now clash last with
  | error f =>
    rw [hverdict, entered?_error] at h
    exact nomatch h
  | ok answer =>
    have hadded := hc.entered?_eq m hverdict
    rw [hverdict] at h
    cases henters : c.enters? with
    | none =>
      simp only [henters] at hadded
      rw [hadded] at h
      exact nomatch h
    | some i =>
      simp only [henters] at hadded
      obtain ⟨e, hentered⟩ := hadded
      rw [hentered] at h
      refine ⟨?_, ?_, i, answer, rfl, rfl⟩
      · rw [← Option.some.inj h]
      · rintro rfl
        rw [verdict_of_full henters hverdict] at hverdict
        exact nomatch hverdict

end Call

end MeshAgent
