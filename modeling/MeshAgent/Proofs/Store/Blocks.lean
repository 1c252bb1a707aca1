import MeshAgent.Proofs.Store.Effects

/-!
# Blocks

A block hands a transaction to a callback. A property of tables that every change keeps holds in
whatever phase the transaction is, and so of what is durable when the block ends.
-/
namespace MeshAgent

namespace Transaction

/-- The tables that belong to a phase have a property. -/
def Phase.All (P : Tables → Prop) : Phase → Prop
  | underWay t => P t
  | ended _ t => P t
  | committed t => P t
  | rolledBack => True

lemma Phase.All.imp {P Q : Tables → Prop} {p : Phase} (hp : p.All P) (hpq : ∀ t, P t → Q t) :
    p.All Q := by
  cases p with
  | underWay t => exact hpq t hp
  | ended finished t => exact hpq t hp
  | committed t => exact hpq t hp
  | rolledBack => trivial

lemma Phase.All.durable {P : Tables → Prop} {p : Phase} {before : Tables} (hp : p.All P)
    (hbefore : P before) : P (p.durable before) := by
  cases p with
  | ended finished t => exact hp
  | committed t => exact hp
  | underWay t => exact hbefore
  | rolledBack => exact hbefore

lemma Phase.All.of_tables {P : Tables → Prop} {p : Phase} {t : Tables} (hp : p.All P)
    (ht : p.tables? = some t) : P t := by
  rcases p with _ | ⟨_ | _, _⟩ | _ | _
  case underWay => exact Option.some.inj ht ▸ hp
  case ended.false => exact Option.some.inj ht ▸ hp
  all_goals exact nomatch ht

lemma Phase.All.refuse {P : Tables → Prop} {p : Phase} {before : Tables} (hp : p.All P)
    (hbefore : P before) (f : Failure) : (p.refuse before f).All P := by
  cases p with
  | underWay t =>
    simp only [Phase.refuse]
    split
    · exact hbefore
    · exact hp
  | _ => exact hp

lemma Phase.all_put {P : Tables → Prop} {p : Phase} {t t' : Tables} (hp : p.tables? = some t)
    (ht : P t') : (p.put t').All P := by
  rcases p with _ | ⟨_ | _, _⟩ | _ | _ <;> first | exact ht | exact nomatch hp

end Transaction

namespace Tables

/-- The entry is the one with the highest id among those of an interface; there is none if the
interface has no entries. -/
def IsNewest (t : Tables) (id : Int) : Option Entry → Prop
  | none => ∀ r ∈ t.log, r.interfaceId ≠ id
  | some e => ∃ r ∈ t.log, r.interfaceId = id ∧ History.entryOfRow r = .ok e ∧
      ∀ s ∈ t.log, s.interfaceId = id → s.id ≤ r.id

/-- Entries of sound tables are in order, so that the last one of an interface is its newest. -/
lemma Sound.newest_eq {key : Bytes} {t : Tables} (ht : t.Sound key) {i : Interface}
    (hi : fitsColumn i.id = true) : ∃ last, t.newest i = .ok last ∧ t.IsNewest i.id last := by
  rw [newest, hi]
  simp only [Bool.not_true, Bool.false_eq_true, if_false]
  cases hlast : t.lastLog? i.id with
  | none =>
    refine ⟨none, rfl, fun r hr hid => ?_⟩
    have hnil := List.getLast?_eq_none_iff.mp hlast
    have hmem : r ∈ t.log.filter fun r => r.interfaceId = i.id :=
      List.mem_filter.mpr ⟨hr, by simpa using hid⟩
    rw [hnil] at hmem
    simp at hmem
  | some r =>
    obtain ⟨rows, hrows⟩ := List.getLast?_eq_some_iff.mp hlast
    have hmem : r ∈ t.log.filter fun r => r.interfaceId = i.id := by simp [hrows]
    obtain ⟨hr, hid⟩ := List.mem_filter.mp hmem
    obtain ⟨e, he⟩ := ht.log_readable r hr
    simp only [he]
    refine ⟨some e, rfl, r, hr, by simpa using hid, he, fun s hs hsid => ?_⟩
    have hordered := ht.log_ordered.filter fun r => decide (r.interfaceId = i.id)
    rw [hrows, List.pairwise_append] at hordered
    have hsmem : s ∈ rows ++ [r] := by
      rw [← hrows]
      exact List.mem_filter.mpr ⟨hs, by simpa using hsid⟩
    rcases List.mem_append.mp hsmem with hs | hs
    · exact Int.le_of_lt (hordered.2.2 s hs r (List.mem_singleton_self r))
    · obtain rfl := List.mem_singleton.mp hs
      exact Int.le_refl _

end Tables

end MeshAgent
