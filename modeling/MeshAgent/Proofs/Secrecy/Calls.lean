import MeshAgent.Proofs.Secrecy.Operations
import MeshAgent.Proofs.Store.Callback

/-!
# Calls that differ in secrets

Twin calls are the same up to the bytes of the secrets that they are given. On twin stores they end
with the same failure or with twin answers. The steps of a callback answer no secrets, so that twin
callbacks, which go on alike from the same answers, stay twins to their ends.
-/
namespace MeshAgent

variable {α : Type} {k k' : Bytes} {R : α → α → Prop} {i i' : Interface} {h : Handle}

/-- Answers that are the same up to the bytes of secrets. -/
def Answer.Twin (a a' : Answer) : Prop := a.masked = a'.masked

lemma Answer.twin_of_eq {a a' : Answer} (h : a = a') : a.Twin a' := congrArg masked h

lemma Answer.twin_interface (hi : i.Twin i') : Twin (.interface i) (.interface i') :=
  congrArg Answer.interface hi

lemma Answer.twin_listed {items items' : List Store.Listed}
    (hitems : List.Forall₂ Store.Listed.Twin items items') :
    Twin (.listed items) (.listed items') := by
  refine congrArg Answer.listed ?_
  induction hitems with
  | nil => rfl
  | cons hitem _ ih => exact congrArg₂ List.cons hitem ih

/-- Calls that are the same up to the bytes of the secrets that they are given. -/
inductive Call.Twin : Call Interface → Call Interface → Prop
  | ensure {i i' : Interface} : i.Twin i' → Twin (.ensure i) (.ensure i')
  | interface (id : Int) : Twin (.interface id) (.interface id)
  | interfaceByDevice (device network : String) :
    Twin (.interfaceByDevice device network) (.interfaceByDevice device network)
  | interfaces : Twin .interfaces .interfaces
  | lastLogByDevice (device network : String) :
    Twin (.lastLogByDevice device network) (.lastLogByDevice device network)
  | join (apiUrl : Option String) {privateKey privateKey' : Bytes} (listenPort : Option Int)
    {r r' : JoinResponse} (message : String) : privateKey.length = privateKey'.length →
    r.masked = r'.masked →
    Twin (.join apiUrl privateKey listenPort r message)
      (.join apiUrl privateKey' listenPort r' message)
  | refresh {i i' : Interface} {r r' : JoinResponse} (message : String) : i.Twin i' →
    r.masked = r'.masked → Twin (.refresh i r message) (.refresh i' r' message)
  | applied {i i' : Interface} (message : String) : i.Twin i' →
    Twin (.applied i message) (.applied i' message)
  | failed {i i' : Interface} (operation message : String) : i.Twin i' →
    Twin (.failed i operation message) (.failed i' operation message)
  | needsApply {i i' : Interface} : i.Twin i' → Twin (.needsApply i) (.needsApply i')

inductive HandleCall.Twin : HandleCall Interface → HandleCall Interface → Prop
  | ensure {i i' : Interface} : i.Twin i' → Twin (.ensure i) (.ensure i')
  | append {i i' : Interface} (operation state : String) (dirty : Bool) (message : String) :
    i.Twin i' → Twin (.append i operation state dirty message)
      (.append i' operation state dirty message)
  | last {i i' : Interface} : i.Twin i' → Twin (.last i) (.last i')
  | lastNamed (device network : String) :
    Twin (.lastNamed device network) (.lastNamed device network)
  | commit : Twin .commit .commit
  | rollback : Twin .rollback .rollback
  | isFinished : Twin .isFinished .isFinished

/-- Callbacks that do the same, up to the bytes of secrets, as long as their steps are answered
alike. -/
inductive Callback.Twin : Callback α → Callback α → Prop
  | done (a : α) : Twin (.done a) (.done a)
  | fail (f : Failure) : Twin (.fail f) (.fail f)
  | step {c c' : HandleCall Interface} {next next' : Except Failure Answer → Callback α} :
    c.Twin c' → (∀ r, Twin (next r) (next' r)) → Twin (.step c next) (.step c' next')

/-- Two stores with an interface in the hands of each caller. -/
structure Held.Twin (k k' : Bytes) (v v' : Held) : Prop where
  state : StoreState.Twin k k' v.toStoreState v'.toStoreState
  held : v.held.Twin v'.held

lemma Call.Twin.iface? {c c' : Call Interface} (h : c.Twin c') :
    Option.Rel Interface.Twin c.iface? c'.iface? := by
  cases h <;> first | exact .none | exact .some ‹_›

section Held

variable {x x' : HeldM α}

lemma parallel_onStore {y y' : StoreM α} (hy : Twins k k' R y y') :
    Parallel (Held.Twin k k') R (HeldM.onStore y) (HeldM.onStore y') := by
  intro v v' hv
  obtain ⟨hends, hstate⟩ := hy _ _ hv.state
  rw [HeldM.exec_onStore, HeldM.exec_onStore]
  exact ⟨hends, hstate, hv.held⟩

lemma parallel_assignId (id : Int) :
    Parallel (Held.Twin k k') Eq (HeldM.assignId id) (HeldM.assignId id) :=
  Parallel.modify fun _ _ hv => ⟨hv.state, hv.held.withId id⟩

/-- What becomes of the interfaces that are handed out. -/
lemma Twins.holding (hi : i.Twin i') (hx : Parallel (Held.Twin k k') R x x') :
    Twins k k' (fun r r' => Ends R r.1 r'.1 ∧ r.2.Twin r'.2) (HeldM.holding i x)
      (HeldM.holding i' x') := by
  intro s s' hs
  obtain ⟨hends, hheld⟩ := hx ⟨s, i⟩ ⟨s', i'⟩ ⟨hs, hi⟩
  rw [HeldM.exec_holding, HeldM.exec_holding]
  exact ⟨.ok ⟨hends, hheld.held⟩, hheld.state⟩

end Held

section

variable (hk : k.length = SecretBox.keySize) (hk' : k'.length = SecretBox.keySize)
include hk hk'

lemma parallel_ensureHeldIn :
    Parallel (Held.Twin k k') Eq (Store.ensureHeldIn h) (Store.ensureHeldIn h) := by
  refine Parallel.get fun v v' hv => ?_
  refine (parallel_onStore (Twins.ensureInterfaceIn hk hk' hv.held)).bind fun id id' hid => ?_
  subst hid
  exact (parallel_assignId id).bind fun _ _ _ => Parallel.pure rfl

lemma parallel_ensureHeld : Parallel (Held.Twin k k') Eq Store.ensureHeld Store.ensureHeld := by
  unfold Store.ensureHeld
  refine Parallel.get fun v v' hv => ?_
  rw [hv.held.id_eq]
  refine Parallel.bind (R := Eq) (Parallel.handle ?_ fun e => ?_) fun _ _ _ => ?_
  · refine Twins.scope (fun hx => parallel_onStore hx) true fun h => ?_
    exact (parallel_ensureHeldIn hk hk').bind fun _ _ _ => parallel_onStore Twins.commit
  · exact (parallel_assignId _).bind fun _ _ _ => Parallel.throw e
  · exact Parallel.get fun v v' hv => Parallel.pure hv.held.id_eq

namespace Twins

lemma ensureInterface (hi : i.Twin i') :
    Twins k k' Eq (Store.ensureInterface i) (Store.ensureInterface i') :=
  (holding hi (parallel_ensureHeld hk hk')).bind fun _ _ hr => lift hr.1

/-- Twin calls have twin answers. -/
theorem run (config : Config) {c c' : Call Interface} (hc : c.Twin c') :
    Twins k k' Answer.Twin (c.run config) (c'.run config) := by
  cases hc with
  | ensure hi => exact (ensureInterface hk hk' hi).map fun _ _ hid => Answer.twin_of_eq (hid ▸ rfl)
  | interface id => exact (interface hk hk' id).map fun _ _ ha => Answer.twin_interface ha
  | interfaceByDevice device network =>
    exact (interfaceByDevice hk hk' device network).map fun _ _ ha => Answer.twin_interface ha
  | interfaces =>
    exact (interfaces hk hk').map fun _ _ hitems => Answer.twin_listed hitems
  | lastLogByDevice device network =>
    exact (lastLogByDevice device network).map fun _ _ he => Answer.twin_of_eq (he ▸ rfl)
  | join apiUrl listenPort message hkey hr =>
    exact (recordJoin hk hk' config apiUrl hkey listenPort hr message).map fun _ _ ha =>
      Answer.twin_interface ha
  | refresh message hi hr =>
    exact (recordRefresh hk hk' hi hr message).map fun _ _ ha => Answer.twin_interface ha
  | applied message hi =>
    exact (recordApplied hi message).map fun _ _ he => Answer.twin_of_eq (he ▸ rfl)
  | failed operation message hi =>
    exact (recordFailed hi operation message).map fun _ _ he => Answer.twin_of_eq (he ▸ rfl)
  | needsApply hi => exact (needsApply hi).map fun _ _ hflag => Answer.twin_of_eq (hflag ▸ rfl)

/-- How a call ends, and what has become of the interface that it was given. -/
theorem perform (config : Config) {c c' : Call Interface} (hc : c.Twin c') :
    Twins k k' (fun r r' => Ends Answer.Twin r.1 r'.1 ∧ Option.Rel Interface.Twin r.2 r'.2)
      (c.perform config) (c'.perform config) := by
  have hattempt :
      Twins k k' (fun r r' => Ends Answer.Twin r.1 r'.1 ∧ Option.Rel Interface.Twin r.2 r'.2)
        (do return (← StoreM.attempt (c.run config), c.iface?))
        (do return (← StoreM.attempt (c'.run config), c'.iface?)) :=
    (run hk hk' config hc).caught.map fun _ _ hends => ⟨hends, hc.iface?⟩
  cases hc with
  | ensure hi =>
    refine (holding hi (parallel_ensureHeld hk hk')).map fun r r' hr => ?_
    exact ⟨hr.1.map fun _ _ hid => Answer.twin_of_eq (hid ▸ rfl), .some hr.2⟩
  | _ => exact hattempt

/-- Twin steps have the same answers. -/
theorem step {c c' : HandleCall Interface} (hc : c.Twin c') :
    Twins k k' Eq (c.run h) (c'.run h) := by
  cases hc with
  | ensure hi => exact (ensureInterfaceIn hk hk' hi).map fun _ _ hid => hid ▸ rfl
  | append operation state dirty message hi =>
    exact (appendNamed hi operation state dirty message).map fun _ _ he => he ▸ rfl
  | last hi => exact (last hi).map fun _ _ he => he ▸ rfl
  | lastNamed device network =>
    exact (lastNamed device network).map fun _ _ he => he ▸ rfl
  | commit => exact commit.map fun _ _ _ => rfl
  | rollback => exact rollback.map fun _ _ _ => rfl
  | isFinished => exact isFinished.map fun _ _ hflag => hflag ▸ rfl

/-- Twin callbacks take twin steps, one after the other, and end alike. -/
theorem callback {b b' : Callback α} (hb : b.Twin b') :
    Twins k k' Eq (b.run h) (b'.run h) := by
  induction hb with
  | done a => exact Parallel.pure rfl
  | fail f => exact Parallel.throw f
  | step hc _ ih =>
    refine (step hk hk' hc).caught.bind fun r r' hends => ?_
    rw [← ends_eq_iff.mp hends]
    exact ih r

end Twins

end

end MeshAgent
