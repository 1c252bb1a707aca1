import MeshAgent.Proofs.Secrecy.Writes
import MeshAgent.Proofs.Store.Calls

/-!
# Operations of twin stores

Reads answer interfaces that are the same up to the bytes of secrets, since each store opens what it
has sealed. With reads, writes and entries, all operations of stores and agents end alike.
-/
namespace MeshAgent

variable {α : Type} {k k' : Bytes} {R : α → α → Prop} {i i' : Interface} {h : Handle}

def Store.Listed.Twin (item item' : Store.Listed) : Prop := item.masked = item'.masked

/-- Whether a refresh brings a token is told by the token's length. -/
lemma Interface.Twin.refreshed (hi : i.Twin i') {r r' : JoinResponse} (hr : r.masked = r'.masked) :
    (Agent.refreshed i r).Twin (Agent.refreshed i' r') := by
  obtain ⟨token, htoken, rfl⟩ := JoinResponse.exists_of_masked hr
  obtain ⟨key, deviceToken, hkey, hdevice, rfl⟩ := hi.exists_eq
  have hempty : token = [] ↔ r.token = [] := by
    rw [← List.length_eq_zero_iff, htoken, List.length_eq_zero_iff]
  simp only [Interface.Twin, Agent.refreshed, Interface.masked, Bytes.masked, hkey, hempty]
  split
  · rw [hdevice]
  · rw [htoken]

section

variable (hk : k.length = SecretBox.keySize) (hk' : k'.length = SecretBox.keySize)
include hk hk'

/-- Secrets in blobs of the same length have the same length. -/
lemma ends_opened {b b' : Bytes} (hlength : b.length = b'.length) (hb : Secret.Opens k b)
    (hb' : Secret.Opens k' b') (activity : Activity) (field : String) :
    Ends (fun s s' => s.length = s'.length) (Stored.opened k b activity field)
      (Stored.opened k' b' activity field) := by
  obtain ⟨s, hs⟩ := hb
  obtain ⟨s', hs'⟩ := hb'
  have hlen := Secret.length_of_decrypt hk hs
  have hlen' := Secret.length_of_decrypt hk' hs'
  rw [Stored.opened_eq_ok.mpr hs, Stored.opened_eq_ok.mpr hs']
  exact .ok (by omega)

/-- Twin rows are read as twin interfaces, or refused for the same text. -/
lemma ends_interface {r r' : InterfaceRow} (hr : InterfaceRow.Twin k k' r r')
    (peers : List PeerRow) :
    Ends Interface.Twin (Stored.interface k r peers) (Stored.interface k' r' peers) := by
  obtain ⟨hmasked, hleft, hright⟩ := hr
  obtain ⟨b, d, hb, hd, rfl⟩ := InterfaceRow.exists_of_masked hmasked
  unfold Stored.interface
  refine (ends_same _).bind fun cidr _ hcidr => (ends_same _).bind fun addr _ haddr =>
    (ends_same _).bind fun publicKey _ hpublic => ?_
  subst hcidr haddr hpublic
  refine (ends_opened hk hk' hb.symm hleft.key hright.key _ _).bind fun s s' hs => ?_
  refine (ends_opened hk hk' hd.symm hleft.deviceToken hright.deviceToken _ _).bind
    fun u u' hu => (ends_same _).bind fun devices _ hdevices => ?_
  subst hdevices
  refine .ok ?_
  simp [Interface.Twin, Interface.masked, Bytes.masked, hs, hu]

namespace Twins

lemma interfaceIn (id : Int) :
    Twins k k' Interface.Twin (Store.interfaceIn h id) (Store.interfaceIn h id) := by
  have hfind : ∀ t t', Tables.Twin k k' t t' →
      Option.Rel (fun f f' => InterfaceRow.Twin k k' f.1 f'.1 ∧ f.2 = f'.2)
        ((t.interface? id).map fun r => (r, t.peersOf id))
        ((t'.interface? id).map fun r => (r, t'.peersOf id)) := by
    intro t t' ht
    have hpeers : t.peersOf id = t'.peersOf id := by rw [Tables.peersOf, Tables.peersOf, ht.peers_eq]
    have hrows := ht.interface? id
    revert hrows
    cases t.interface? id <;> cases t'.interface? id <;> simp [hpeers]
  unfold Store.interfaceIn
  refine (query _ _ _ hfind).bind fun found found' hfound => ?_
  cases hfound with
  | none => exact fail _
  | some hrows =>
    obtain ⟨hrow, hpeers⟩ := hrows
    refine Parallel.get fun s s' hs => ?_
    rw [hs.left, hs.right, ← hpeers]
    refine (lift (ends_orFail (ends_interface hk hk' hrow _))).bind fun a a' ha => ?_
    exact (record _ _ _).bind fun _ _ _ => Parallel.pure ha

end Twins

end

namespace Twins

lemma reading {body body' : Handle → StoreM α} (hbody : ∀ h, Twins k k' R (body h) (body' h)) :
    Twins k k' R (Store.reading body) (Store.reading body') :=
  scope (fun hx => hx) false hbody

lemma lastLogByDevice (device network : String) :
    Twins k k' Eq (Store.lastLogByDevice device network) (Store.lastLogByDevice device network) := by
  unfold Store.lastLogByDevice
  refine (reading fun h => lastNamed device network).bind fun e e' he => ?_
  subst he
  cases e with
  | none => exact fail _
  | some e => exact Parallel.pure rfl

lemma logged (hi : i.Twin i') {body body' : Handle → Option Entry → StoreM α}
    (hbody : ∀ h last, Twins k k' R (body h last) (body' h last)) :
    Twins k k' R (Store.logged i body) (Store.logged i' body') := by
  refine scope (fun hx => hx) true fun h => ?_
  refine (last hi).bind fun entry entry' hentry => ?_
  subst hentry
  refine (hbody h entry).bind fun a a' ha => ?_
  exact commit.bind fun _ _ _ => Parallel.pure ha

lemma recordApplied (hi : i.Twin i') (message : String) :
    Twins k k' Eq (Agent.recordApplied i message) (Agent.recordApplied i' message) :=
  logged hi fun _ _ => append hi _ _ _ _

lemma recordFailed (hi : i.Twin i') (operation message : String) :
    Twins k k' Eq (Agent.recordFailed i operation message)
      (Agent.recordFailed i' operation message) :=
  logged hi fun _ _ => appendNamed hi _ _ _ _

lemma needsApply (hi : i.Twin i') :
    Twins k k' Eq (Agent.needsApply i) (Agent.needsApply i') :=
  logged hi fun _ _ => Parallel.pure rfl

section

variable (hk : k.length = SecretBox.keySize) (hk' : k'.length = SecretBox.keySize)
include hk hk'

lemma interface (id : Int) : Twins k k' Interface.Twin (Store.interface id) (Store.interface id) :=
  reading fun _ => interfaceIn hk hk' id

lemma interfaceByDevice (device network : String) :
    Twins k k' Interface.Twin (Store.interfaceByDevice device network)
      (Store.interfaceByDevice device network) := by
  refine reading fun h => ?_
  refine (query _ _ _ fun t t' ht => ht.interfaceNamed? device network).bind fun id id' hid => ?_
  subst hid
  cases id with
  | none => exact fail _
  | some id => exact interfaceIn hk hk' id

lemma interfaces :
    Twins k k' (List.Forall₂ Store.Listed.Twin) Store.interfaces Store.interfaces := by
  refine reading fun h => ?_
  refine (query _ _ _ fun t t' ht => ht.ids_eq).bind fun ids ids' hids => ?_
  subst hids
  refine Parallel.mapM (fun id => ?_) ids
  refine (interfaceIn hk hk' id).bind fun a a' ha => ?_
  refine (last ha).map fun e e' he => ?_
  rw [Store.Listed.Twin, Store.Listed.masked, Store.Listed.masked, he, show a.masked = _ from ha]

/-- Writes an interface and enters what has happened to it. -/
lemma ensureAndEnter (hi : i.Twin i') (operation : Operation) (state : State)
    {message message' : Int → String} (hmessage : message = message') :
    Twins k k' Interface.Twin
      (do
        let id ← Store.ensureInterfaceIn h i
        let _ ← History.append h { i with id } operation state true (message id)
        return { i with id })
      (do
        let id ← Store.ensureInterfaceIn h i'
        let _ ← History.append h { i' with id } operation state true (message' id)
        return { i' with id }) := by
  subst hmessage
  refine (ensureInterfaceIn hk hk' hi).bind fun id id' hid => ?_
  subst hid
  have hstored := hi.withId id
  exact (append hstored _ _ _ _).bind fun _ _ _ => Parallel.pure hstored

lemma recordJoin (config : Config) (apiUrl : Option String) {privateKey privateKey' : Bytes}
    (hkey : privateKey.length = privateKey'.length) (listenPort : Option Int) {r r' : JoinResponse}
    (hr : r.masked = r'.masked) (message : String) :
    Twins k k' Interface.Twin (Agent.recordJoin config apiUrl privateKey listenPort r message)
      (Agent.recordJoin config apiUrl privateKey' listenPort r' message) := by
  obtain ⟨token, htoken, rfl⟩ := JoinResponse.exists_of_masked hr
  have hi : Interface.Twin (Agent.joined config apiUrl privateKey listenPort r)
      (Agent.joined config apiUrl privateKey' listenPort { r with token }) := by
    simp [Interface.Twin, Agent.joined, Interface.masked, Bytes.masked, hkey, htoken]
  unfold Agent.recordJoin
  refine (lift_eq rfl).bind fun _ _ _ => ?_
  refine (logged hi fun h _ => ensureAndEnter hk hk' hi _ _ rfl).bind fun a a' ha => ?_
  obtain ⟨key, deviceToken, -, -, rfl⟩ := ha.exists_eq
  exact (record _ _ _).bind fun _ _ _ => Parallel.pure ha

lemma recordRefresh (hi : i.Twin i') {r r' : JoinResponse} (hr : r.masked = r'.masked)
    (message : String) :
    Twins k k' Interface.Twin (Agent.recordRefresh i r message)
      (Agent.recordRefresh i' r' message) := by
  have hupdated := hi.refreshed hr
  obtain ⟨token, -, rfl⟩ := JoinResponse.exists_of_masked hr
  unfold Agent.recordRefresh
  refine (lift_eq rfl).bind fun _ _ _ => ?_
  exact logged hupdated fun h _ => ensureAndEnter hk hk' hupdated _ _ rfl

end

end Twins

end MeshAgent
