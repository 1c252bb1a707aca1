import MeshAgent.Proofs.Home.Reachable

/-!
# Failures

A call that fails leaves nothing behind but records and draws from the random source. The tables,
the interface in the hands of the caller and everything that is done later are as if it had never
been made.
-/
namespace MeshAgent

lemma Call.heldAfter_error (c : Call Interface) (f : Failure) :
    c.heldAfter (.error f) = c.iface? := by cases c <;> rfl

namespace Site

open Transaction

variable {α : Type} {w w' : Site}

/-- Puts another random source in the place of that of the host. -/
def reseed (w : Site) (e : Entropy) : Site := { w with host := { w.host with entropy := e } }

lemma steady_reseed (hw : w.Steady) (e : Entropy) : (w.reseed e).Steady :=
  ⟨hw.key, hw.working, hw.finished_lt, hw.place⟩

/-- The same store with the same tables at the same time, and the same random source. The records
and the handles that have been used may differ. -/
structure Alike (w w' : Site) : Prop where
  store : w'.mounted.store = w.mounted.store
  closed : w'.mounted.connection.closed = w.mounted.connection.closed
  now : w'.host.now = w.host.now
  entropy : w'.host.entropy = w.host.entropy
  tables : w'.tables = w.tables

/-- Two runs of an operation end in the same way and leave the same tables. -/
def SameEnd (r r' : Except Failure α × Site) : Prop := r'.1 = r.1 ∧ r'.2.tables = r.2.tables

lemma Alike.isOpen (h : Alike w w') : w'.IsOpen ↔ w.IsOpen := by rw [IsOpen, IsOpen, h.closed]

/-- What a call does on an open store depends on what alike sites have in common. -/
lemma Alike.perform (h : Alike w w') (hw : w.Steady) (hw' : w'.Steady) (config : Config)
    (c : Call Interface) : SameEnd (w.exec (c.perform config)) (w'.exec (c.perform config)) := by
  by_cases hopen : w.IsOpen
  · obtain ⟨v, hv, -, -, -, -, -, hvt⟩ := exec_perform_spec hw hopen config c rfl
    obtain ⟨v', hv', -, -, -, -, -, hvt'⟩ :=
      exec_perform_spec hw' (h.isOpen.mpr hopen) config c rfl
    rw [h.store, h.now, h.entropy, h.tables] at hv' hvt'
    rw [hv, hv']
    exact ⟨rfl, hvt'.trans hvt.symm⟩
  · obtain ⟨hv, -, hvt⟩ := exec_perform_of_closed hw hopen config c
    obtain ⟨hv', -, hvt'⟩ := exec_perform_of_closed hw' (mt h.isOpen.mp hopen) config c
    rw [hv, hv', h.store]
    exact ⟨rfl, by rw [hvt, hvt', h.tables]⟩

lemma course_alike (h : Alike w w') (callback : Callback α) :
    w'.course callback = w.course callback := by
  rw [course, course, h.store, h.now, h.entropy, h.tables]

lemma block_alike (h : Alike w w') (i : Interface) (callback : Option Entry → Callback α) :
    w'.block i callback = w.block i callback := by
  simp only [block, h.tables, h.entropy, course_alike h]

lemma Alike.withLog (h : Alike w w') (hw : w.Steady) (hw' : w'.Steady) (i : Interface)
    (callback : Option Entry → Callback α) :
    SameEnd (w.withLog i callback) (w'.withLog i callback) := by
  by_cases hopen : w.IsOpen
  · obtain ⟨s, hs, hset⟩ := withLog_spec hw hopen i callback
    obtain ⟨s', hs', hset'⟩ := withLog_spec hw' (h.isOpen.mpr hopen) i callback
    rw [hs, hs', block_alike h]
    refine ⟨rfl, ?_⟩
    rw [tables_leave hw, tables_leave hw', hset.durable, hset'.durable, block_alike h, h.tables]
  · rw [withLog_of_closed hopen, withLog_of_closed (mt h.isOpen.mp hopen), h.store]
    refine ⟨rfl, ?_⟩
    rw [tables_leave hw, tables_leave hw']
    exact h.tables

lemma Alike.transaction (h : Alike w w') (hw : w.Steady) (hw' : w'.Steady) (write : Bool)
    (callback : Callback α) :
    SameEnd (w.transaction write callback) (w'.transaction write callback) := by
  by_cases hopen : w.IsOpen
  · obtain ⟨s, hs, hset⟩ := transaction_spec hw hopen write callback
    obtain ⟨s', hs', hset'⟩ := transaction_spec hw' (h.isOpen.mpr hopen) write callback
    rw [hs, hs', course_alike h]
    refine ⟨rfl, ?_⟩
    rw [tables_leave hw, tables_leave hw', hset.durable, hset'.durable, course_alike h, h.tables]
  · rw [transaction_of_closed hopen, transaction_of_closed (mt h.isOpen.mp hopen), h.store]
    refine ⟨rfl, ?_⟩
    rw [tables_leave hw, tables_leave hw']
    exact h.tables

/-- No later operation can tell `w'` from `w`: it ends and leaves the tables as it would have done at
`w`, for every state of the random source that it may find. -/
structure SameLater (w w' : Site) : Prop where
  call : ∀ e config c, SameEnd ((w.reseed e).exec (Call.perform config c))
    ((w'.reseed e).exec (Call.perform config c))
  withLog : ∀ e (β : Type) i (callback : Option Entry → Callback β),
    SameEnd ((w.reseed e).withLog i callback) ((w'.reseed e).withLog i callback)
  transaction : ∀ e (β : Type) write (callback : Callback β),
    SameEnd ((w.reseed e).transaction write callback) ((w'.reseed e).transaction write callback)

lemma sameLater_of_alike (hw : w.Steady) (hw' : w'.Steady)
    (h : ∀ e, Alike (w.reseed e) (w'.reseed e)) : SameLater w w' where
  call e config c := (h e).perform (steady_reseed hw e) (steady_reseed hw' e) config c
  withLog e _ i callback := (h e).withLog (steady_reseed hw e) (steady_reseed hw' e) i callback
  transaction e _ write callback :=
    (h e).transaction (steady_reseed hw e) (steady_reseed hw' e) write callback

/-- Every call ends with an outcome. If that is a failure, then the tables with their counters are
those from before, no transaction is under way, the interface that was handed to the call is
unchanged, and no later operation can tell that there was a call. -/
theorem perform_failure_leaves_nothing (hw : Reachable w) (config : Config) (c : Call Interface) :
    ∃ outcome held w', w.exec (c.perform config) = (.ok (outcome, held), w') ∧
      ∀ f, outcome = .error f →
        w'.tables = w.tables ∧ w'.mounted.connection.working = none ∧ held = c.iface? ∧
          SameLater w w' := by
  have hsteady := hw.spec.1
  by_cases hopen : w.IsOpen
  · obtain ⟨w', hexec, hsteady', hopen', hstore, -, hnow, htables⟩ :=
      exec_perform_spec hsteady hopen config c rfl
    refine ⟨_, _, w', hexec, fun f hf => ?_⟩
    have hsame : w'.tables = w.tables := by rw [htables, Change.after_of_outcome_error hf]
    have halike : ∀ e, Alike (w.reseed e) (w'.reseed e) := fun _ =>
      ⟨hstore, hopen'.trans hopen.symm, hnow, rfl, hsame⟩
    exact ⟨hsame, hsteady'.working, by rw [hf, Call.heldAfter_error],
      sameLater_of_alike hsteady hsteady' halike⟩
  · obtain ⟨hexec, hsteady', hsame⟩ := exec_perform_of_closed hsteady hopen config c
    refine ⟨_, _, _, hexec, fun f _ => ?_⟩
    have halike : ∀ e, Alike (w.reseed e) ((w.leave w.state).reseed e) := fun _ =>
      ⟨rfl, rfl, rfl, rfl, hsame⟩
    exact ⟨hsame, hsteady'.working, rfl, sameLater_of_alike hsteady hsteady' halike⟩

/-- The kind of an agent error. -/
def kindOf? : Failure → Option ErrorKind
  | .agent e => some e.kind
  | _ => none

/-- A lathe and a drill, each with the other one as its peer. The lathe has joined, so the log has an
entry about it. -/
def workshop : Site :=
  let key : Bytes := List.replicate Key.size 0
  let addr : Address := .v4 ⟨0, Address.fullPrefix4⟩
  let network : Network := ⟨"", "workshop", addr⟩
  let lathe : Device := { id := "a", name := "lathe", addr, publicKey := key }
  let drill : Device := { id := "b", name := "drill", addr, publicKey := List.replicate Key.size 1 }
  ((blank.call {} (.join none key none { network, device := lathe, peers := [drill] } "")).2.call {}
    (.ensure { apiUrl := "", network, device := drill, peers := [lathe], key, deviceToken := [] })).2

lemma reachable_workshop : Reachable workshop := (reachable_blank.call {} _).call {} _

/-- The drill cannot take over the public key of the lathe and lose its peer: nothing that is stored of
the two is changed by the attempt. -/
theorem perform_failure_leaves_nothing_of_taken_key :
    let key : Bytes := List.replicate Key.size 0
    let addr : Address := .v4 ⟨0, Address.fullPrefix4⟩
    let i : Interface :=
      { id := 2, apiUrl := "", network := ⟨"", "workshop", addr⟩
        device := { id := "b", name := "drill", addr, publicKey := key }, key, deviceToken := [] }
    Reachable workshop ∧
      (workshop.tables.interfaces.length, workshop.tables.peers.length, workshop.tables.log.length) =
        (2, 2, 1) ∧
      ∃ e w', workshop.exec (Call.perform {} (.ensure i)) = (.ok (.error (.agent e), some i), w') ∧
        e.kind = .conflict ∧ w'.tables = workshop.tables ∧ w'.mounted.connection.working = none ∧
          SameLater workshop w' := by
  intro key addr i
  obtain ⟨outcome, held, w', hexec, hfail⟩ :=
    perform_failure_leaves_nothing reachable_workshop {} (.ensure i)
  have hrefused : ((workshop.exec (Call.perform {} (.ensure i))).1.toOption.map fun ended =>
      (ended.1.mapError kindOf?).map fun _ => ()) = some (.error (some .conflict)) := by
    decide +kernel
  rw [hexec] at hrefused
  refine ⟨reachable_workshop, by decide +kernel, ?_⟩
  cases outcome with
  | ok answer => cases hrefused
  | error f =>
    obtain ⟨htables, hworking, rfl, hlater⟩ := hfail f rfl
    have hkind : kindOf? f = some .conflict := Except.error.inj (Option.some.inj hrefused)
    cases f with
    | agent e => exact ⟨e, w', hexec, Option.some.inj hkind, htables, hworking, hlater⟩
    | _ => cases hkind

end Site

end MeshAgent
