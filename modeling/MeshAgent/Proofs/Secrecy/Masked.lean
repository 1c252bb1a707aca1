import MeshAgent.Proofs.Secret.Authentic
import MeshAgent.Proofs.Store.Fields
import MeshAgent.Proofs.Store.Steps

/-!
# What is not secret

Masking forgets the bytes of private keys and device tokens, but not how many they are. No question
that is asked of the tables and no change of them looks at masked bytes: masking first and masking
afterwards come to the same.
-/
namespace MeshAgent

/-- The bytes of a secret, with nothing left but their number. -/
def Bytes.masked (bs : Bytes) : Bytes := List.replicate bs.length 0

lemma Bytes.masked_eq_iff {bs bs' : Bytes} : bs.masked = bs'.masked ↔ bs.length = bs'.length := by
  simp [masked]

def Interface.masked (i : Interface) : Interface :=
  { i with key := i.key.masked, deviceToken := i.deviceToken.masked }

def JoinResponse.masked (r : JoinResponse) : JoinResponse := { r with token := r.token.masked }

def InterfaceColumns.masked (c : InterfaceColumns) : InterfaceColumns :=
  { c with key := c.key.masked, deviceToken := c.deviceToken.masked }

def InterfaceRow.masked (r : InterfaceRow) : InterfaceRow :=
  { r with toInterfaceColumns := r.toInterfaceColumns.masked }

def Tables.masked (t : Tables) : Tables :=
  { t with interfaces := t.interfaces.map InterfaceRow.masked }

def Store.Listed.masked (item : Store.Listed) : Store.Listed :=
  { item with interface := item.interface.masked }

def Answer.masked : Answer → Answer
  | .interface a => .interface a.masked
  | .listed items => .listed (items.map Store.Listed.masked)
  | a => a

/-- Interfaces that are the same up to the bytes of their secrets. -/
def Interface.Twin (i i' : Interface) : Prop := i.masked = i'.masked

namespace Interface.Twin

variable {i i' : Interface}

lemma exists_eq (h : i.Twin i') :
    ∃ key deviceToken : Bytes, key.length = i.key.length ∧
      deviceToken.length = i.deviceToken.length ∧ i' = { i with key, deviceToken } := by
  obtain ⟨id, apiUrl, network, device, listenPort, key, token, peers⟩ := i
  obtain ⟨id', apiUrl', network', device', listenPort', key', token', peers'⟩ := i'
  simp only [Twin, masked, Interface.mk.injEq, Bytes.masked_eq_iff] at h
  obtain ⟨rfl, rfl, rfl, rfl, rfl, hkey, htoken, rfl⟩ := h
  exact ⟨key', token', hkey.symm, htoken.symm, rfl⟩

lemma id_eq (h : i.Twin i') : i.id = i'.id := by
  obtain ⟨key, token, -, -, rfl⟩ := h.exists_eq
  rfl

lemma withId (h : i.Twin i') (id : Int) : Twin { i with id } { i' with id } := by
  obtain ⟨key, token, hkey, htoken, rfl⟩ := h.exists_eq
  simp [Twin, masked, Bytes.masked, hkey, htoken]

end Interface.Twin

lemma JoinResponse.exists_of_masked {r r' : JoinResponse} (h : r.masked = r'.masked) :
    ∃ token : Bytes, token.length = r.token.length ∧ r' = { r with token } := by
  obtain ⟨network, device, peers, plan, token⟩ := r
  obtain ⟨network', device', peers', plan', token'⟩ := r'
  simp only [masked, JoinResponse.mk.injEq, Bytes.masked_eq_iff] at h
  obtain ⟨rfl, rfl, rfl, rfl, htoken⟩ := h
  exact ⟨token', htoken.symm, rfl⟩

lemma InterfaceRow.exists_of_masked {r r' : InterfaceRow} (h : r.masked = r'.masked) :
    ∃ key deviceToken : Bytes, key.length = r.key.length ∧
      deviceToken.length = r.deviceToken.length ∧ r' = { r with key, deviceToken } := by
  obtain ⟨c, id, createdAt, updatedAt⟩ := r
  obtain ⟨c', id', createdAt', updatedAt'⟩ := r'
  simp only [masked, InterfaceRow.mk.injEq, InterfaceColumns.masked, InterfaceColumns.mk.injEq,
    Bytes.masked_eq_iff] at h
  obtain ⟨⟨h₁, h₂, h₃, h₄, h₅, h₆, h₇, h₈, h₉, h₁₀, hkey, htoken⟩, rfl, rfl, rfl⟩ := h
  refine ⟨c'.key, c'.deviceToken, hkey.symm, htoken.symm, ?_⟩
  simp only [InterfaceRow.mk.injEq, and_true]
  cases c'
  simp_all

/-- Keys are checked by their lengths. -/
lemma Key.check_of_length {key key' : Bytes} (h : key.length = key'.length) (activity : Activity)
    (entity : String) : Key.check key activity entity = Key.check key' activity entity := by
  rw [Key.check, Key.check, h]

namespace Tables

@[simp] lemma interfaces_masked (t : Tables) :
    t.masked.interfaces = t.interfaces.map InterfaceRow.masked := rfl

lemma interface?_masked (t : Tables) (id : Int) :
    t.masked.interface? id = (t.interface? id).map InterfaceRow.masked := by
  rw [interface?, interfaces_masked, List.find?_map]
  rfl

lemma interfaceNamed?_masked (t : Tables) (device network : String) :
    t.masked.interfaceNamed? device network =
      (t.interfaceNamed? device network).map InterfaceRow.masked := by
  rw [interfaceNamed?, interfaces_masked, List.find?_map]
  rfl

lemma hasInterface_masked (t : Tables) (id : Int) :
    t.masked.hasInterface id = t.hasInterface id := by
  rw [hasInterface, interfaces_masked, List.any_map]
  rfl

lemma lastLogNamed?_masked (t : Tables) (device network : String) :
    t.masked.lastLogNamed? device network = t.lastLogNamed? device network := by
  simp only [lastLogNamed?, interfaces_masked, List.any_map]
  rfl

lemma conflict?_masked (t : Tables) (self : Option Int) (c : InterfaceColumns) :
    t.masked.conflict? self c.masked = t.conflict? self c := by
  simp only [conflict?, interfaces_masked, List.any_map]
  rfl

lemma insertRow_masked (row : InterfaceRow) (rows : List InterfaceRow) :
    insertRow row.masked (rows.map InterfaceRow.masked) =
      (insertRow row rows).map InterfaceRow.masked := by
  induction rows with
  | nil => rfl
  | cons r rows ih =>
    have hrow : row.masked.id = row.id := rfl
    have hr : r.masked.id = r.id := rfl
    rw [List.map_cons, insertRow, insertRow, hrow, hr]
    split
    · rfl
    · rw [ih]
      rfl

/-- The rows with their secrets masked, once one of them has been written. -/
lemma written_masked (rows : List InterfaceRow) (known : Bool) (id now : Int)
    (c : InterfaceColumns) :
    InterfaceRow.written (rows.map InterfaceRow.masked) known id now c.masked =
      (InterfaceRow.written rows known id now c).map InterfaceRow.masked := by
  cases known with
  | false =>
    simp only [InterfaceRow.written, Bool.false_eq_true, if_false, ← insertRow_masked]
    rfl
  | true =>
    simp only [InterfaceRow.written, if_true, List.map_map]
    refine List.map_congr_left fun r _ => ?_
    have hr : r.masked.id = r.id := rfl
    simp only [Function.comp_apply, hr]
    split <;> rfl

lemma upsertInterface_masked (t : Tables) (given : Option Int) (now : Int) (c : InterfaceColumns) :
    t.masked.upsertInterface given now c.masked =
      (t.upsertInterface given now c).map fun r => (r.1.masked, r.2) := by
  have hid : t.masked.idFor given = t.idFor given := rfl
  rw [upsertInterface, upsertInterface, hid]
  cases t.idFor given with
  | error p => rfl
  | ok id =>
    simp only [bind, Except.bind, conflict?_masked]
    cases t.conflict? (some id) c with
    | some i => rfl
    | none =>
      have hrows := written_masked t.interfaces (t.hasInterface id) id now c
      simp only [InterfaceRow.written] at hrows
      simp only [Except.map, hasInterface_masked, interfaces_masked, hrows]
      rfl

lemma insertPeer_masked (t : Tables) (id : Int) (c : PeerColumns) :
    t.masked.insertPeer id c = (t.insertPeer id c).map masked := by
  rw [insertPeer, insertPeer, hasInterface_masked]
  split <;> rfl

lemma appendLog_masked (t : Tables) (c : LogColumns) :
    t.masked.appendLog c = (t.appendLog c).map fun r => (r.1.masked, r.2) := by
  have hlast : t.masked.lastLogId = t.lastLogId := rfl
  rw [appendLog, appendLog, hasInterface_masked, hlast]
  split
  · rfl
  · split <;> rfl

end Tables

end MeshAgent
