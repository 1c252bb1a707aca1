import MeshAgent.Proofs.Secrecy.Twin

/-!
# Statements on twin tables

Every statement of the store ends alike on twin tables and leaves twins. What a statement writes can
be opened, since it has just been sealed; what it leaves alone could be opened before.
-/
namespace MeshAgent

variable {k k' : Bytes} {t t' : Tables}

lemma ends_of_map_eq {ε α β : Type} {R : α → α → Prop} {g : α → β} {x x' : Except ε α}
    (h : x.map g = x'.map g)
    (hR : ∀ a a', x = .ok a → x' = .ok a' → g a = g a' → R a a') : Ends R x x' := by
  cases x with
  | error e =>
    cases x' with
    | error e' =>
      rw [show e = e' from Except.error.inj h]
      exact .error e'
    | ok a' => simp [Except.map] at h
  | ok a =>
    cases x' with
    | error e' => simp [Except.map] at h
    | ok a' => exact .ok (hR a a' rfl rfl (Except.ok.inj h))

/-- Rows that are the same up to the bytes of their secrets, which `k` opens in one of them and `k'`
in the other. -/
structure InterfaceRow.Twin (k k' : Bytes) (r r' : InterfaceRow) : Prop where
  masked : r.masked = r'.masked
  left : r.toInterfaceColumns.Opens k
  right : r'.toInterfaceColumns.Opens k'

namespace Tables

lemma rel_of_map_masked {r r' : Option InterfaceRow}
    (h : r.map InterfaceRow.masked = r'.map InterfaceRow.masked)
    (hleft : ∀ a ∈ r, a.toInterfaceColumns.Opens k)
    (hright : ∀ a ∈ r', a.toInterfaceColumns.Opens k') :
    Option.Rel (InterfaceRow.Twin k k') r r' := by
  cases r with
  | none =>
    cases r' with
    | none => exact .none
    | some a' => simp at h
  | some a =>
    cases r' with
    | none => simp at h
    | some a' => exact .some ⟨Option.some.inj h, hleft a rfl, hright a' rfl⟩

namespace Twin

lemma log_eq (h : Twin k k' t t') : t.log = t'.log := by
  have hlog : t.masked.log = t'.masked.log := congrArg Tables.log h.masked
  exact hlog

lemma peers_eq (h : Twin k k' t t') : t.peers = t'.peers := by
  have hpeers : t.masked.peers = t'.masked.peers := congrArg Tables.peers h.masked
  exact hpeers

lemma ids_eq (h : Twin k k' t t') :
    t.interfaces.map (·.id) = t'.interfaces.map (·.id) := by
  have hids := congrArg (fun t : Tables => t.interfaces.map (·.id)) h.masked
  simpa only [interfaces_masked, List.map_map, Function.comp_def, InterfaceRow.masked] using hids

lemma interface? (h : Twin k k' t t') (id : Int) :
    Option.Rel (InterfaceRow.Twin k k') (t.interface? id) (t'.interface? id) := by
  refine rel_of_map_masked ?_ (fun r hr => h.left r (List.mem_of_find?_eq_some hr))
    fun r hr => h.right r (List.mem_of_find?_eq_some hr)
  rw [← interface?_masked, ← interface?_masked, h.masked]

lemma interfaceNamed? (h : Twin k k' t t') (device network : String) :
    (t.interfaceNamed? device network).map (·.id) =
      (t'.interfaceNamed? device network).map (·.id) := by
  have hrows : (t.interfaceNamed? device network).map InterfaceRow.masked =
      (t'.interfaceNamed? device network).map InterfaceRow.masked := by
    rw [← interfaceNamed?_masked, ← interfaceNamed?_masked, h.masked]
  have hids := congrArg (Option.map InterfaceRow.id) hrows
  rwa [Option.map_map, Option.map_map] at hids

lemma lastLogNamed? (h : Twin k k' t t') (device network : String) :
    t.lastLogNamed? device network = t'.lastLogNamed? device network := by
  rw [← lastLogNamed?_masked, h.masked, lastLogNamed?_masked]

end Twin

lemma opens_of_interfaces_eq (h : t.Opens k) (heq : t'.interfaces = t.interfaces) : t'.Opens k := by
  rw [Opens, heq]
  exact h

lemma columns_of_mem_written {rows : List InterfaceRow} {known : Bool} {id now : Int}
    {c : InterfaceColumns} {r : InterfaceRow} (hr : r ∈ InterfaceRow.written rows known id now c) :
    r.toInterfaceColumns = c ∨ r ∈ rows := by
  cases known with
  | false =>
    rcases mem_insertRow.mp hr with rfl | hr
    · exact Or.inl rfl
    · exact Or.inr hr
  | true =>
    obtain ⟨q, hq, rfl⟩ := List.mem_map.mp hr
    by_cases hid : q.id = id
    · exact Or.inl (by rw [if_pos hid])
    · exact Or.inr (by rwa [if_neg hid])

/-- What has been written is opened by the key that sealed it. -/
lemma opens_upsertInterface {given : Option Int} {now id : Int} {c : InterfaceColumns}
    (ht : t.Opens k) (hc : c.Opens k) (h : t.upsertInterface given now c = .ok (t', id)) :
    t'.Opens k := by
  obtain ⟨-, -, rfl⟩ := upsertInterface_eq_ok h
  intro r hr
  rcases columns_of_mem_written hr with hcolumns | hr
  · rwa [hcolumns]
  · exact ht r hr

end Tables

/-- A statement that commutes with masking and leaves the interfaces alone. -/
lemma twinStatements_of_masked {α : Type} {f : Tables → Except DatabaseProblem (Tables × α)}
    (hmasked : ∀ t, f t.masked = (f t).map fun r => (r.1.masked, r.2))
    (hkept : ∀ t r, f t = .ok r → r.1.interfaces = t.interfaces) :
    TwinStatements k k' Eq f f := by
  intro t t' ht
  have heq : (f t).map (fun r => (r.1.masked, r.2)) = (f t').map fun r => (r.1.masked, r.2) := by
    rw [← hmasked, ← hmasked, ht.masked]
  refine ends_of_map_eq heq fun r r' hr hr' hrr => ?_
  obtain ⟨hfirst, hsecond⟩ := Prod.mk.inj hrr
  exact ⟨⟨hfirst, Tables.opens_of_interfaces_eq ht.left (hkept t r hr),
    Tables.opens_of_interfaces_eq ht.right (hkept t' r' hr')⟩, hsecond⟩

lemma twinStatements_deletePeers (id : Int) :
    TwinStatements k k' Eq (fun t => .ok (t.deletePeers id, ()))
      fun t => .ok (t.deletePeers id, ()) :=
  twinStatements_of_masked (fun _ => rfl) fun t r hr => by rw [← Except.ok.inj hr]; rfl

lemma twinStatements_insertPeer (id : Int) (c : PeerColumns) :
    TwinStatements k k' Eq (fun t => (t.insertPeer id c).map (·, ()))
      fun t => (t.insertPeer id c).map (·, ()) := by
  refine twinStatements_of_masked (fun t => ?_) fun t r hr => ?_
  · rw [Tables.insertPeer_masked]
    cases t.insertPeer id c <;> rfl
  · rw [Tables.insertPeer] at hr
    split at hr
    · rw [← Except.ok.inj hr]
    · simp [Except.map] at hr

lemma twinStatements_appendLog (c : LogColumns) :
    TwinStatements k k' Eq (fun t => t.appendLog c) fun t => t.appendLog c := by
  refine twinStatements_of_masked (fun t => Tables.appendLog_masked t c) fun t r hr => ?_
  rw [Tables.appendLog] at hr
  split at hr
  · simp at hr
  · split at hr
    · rw [← Except.ok.inj hr]
    · simp at hr

/-- A write of columns that are the same up to the bytes of their secrets. -/
lemma twinStatements_upsertInterface (given : Option Int) (now : Int) {c c' : InterfaceColumns}
    (hmasked : c.masked = c'.masked) (hc : c.Opens k) (hc' : c'.Opens k') :
    TwinStatements k k' Eq (fun t => t.upsertInterface given now c)
      fun t => t.upsertInterface given now c' := by
  intro t t' ht
  have heq : (t.upsertInterface given now c).map (fun r => (r.1.masked, r.2)) =
      (t'.upsertInterface given now c').map fun r => (r.1.masked, r.2) := by
    rw [← Tables.upsertInterface_masked, ← Tables.upsertInterface_masked, ht.masked, hmasked]
  refine ends_of_map_eq heq fun r r' hr hr' hrr => ?_
  obtain ⟨hfirst, hsecond⟩ := Prod.mk.inj hrr
  exact ⟨⟨hfirst, Tables.opens_upsertInterface ht.left hc hr,
    Tables.opens_upsertInterface ht.right hc' hr'⟩, hsecond⟩

end MeshAgent
