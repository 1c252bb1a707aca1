import Mathlib.Data.List.Forall2
import Mathlib.Tactic.Lemma
import MeshAgent.Store.Read

/-!
# The fields of a read

The texts and blobs that a read has to make sense of are its fields, in the order in which it looks
at them. A read gives exactly what its fields say, or fails for the first one that is damaged. Parts
of a read that stand one after the other fail at the fields of the first part before those of the
second.
-/
namespace MeshAgent

namespace Except

variable {ε α β : Type}

lemma bind_eq_ok {x : Except ε α} {f : α → Except ε β} {b : β} :
    (x >>= f) = .ok b ↔ ∃ a, x = .ok a ∧ f a = .ok b := by
  cases x <;> simp [bind, Except.bind]

lemma map_eq_error {g : α → β} {x : Except ε α} {e : ε} : x.map g = .error e ↔ x = .error e := by
  cases x <;> simp [Except.map]

lemma map_eq_ok {g : α → β} (hg : ∀ a b, g a = g b → a = b) {x : Except ε α} {a : α} :
    x.map g = .ok (g a) ↔ x = .ok a := by
  cases x with
  | error e => simp [Except.map]
  | ok b => exact ⟨fun h => congrArg _ (hg b a (Except.ok.inj h)), fun h => h ▸ rfl⟩

lemma mapM_eq_ok {f : α → Except ε β} {as : List α} {bs : List β} :
    as.mapM f = .ok bs ↔ List.Forall₂ (fun a b => f a = .ok b) as bs := by
  induction as generalizing bs with
  | nil =>
    rw [List.mapM_nil, List.forall₂_nil_left_iff]
    exact ⟨fun h => (Except.ok.inj h).symm, fun h => h ▸ rfl⟩
  | cons a as ih =>
    rw [List.mapM_cons, bind_eq_ok, List.forall₂_cons_left_iff]
    refine exists_congr fun b => ?_
    simp only [bind_eq_ok, ih]
    constructor
    · rintro ⟨hb, bs', hbs', hcons⟩
      exact ⟨bs', hb, hbs', (Except.ok.inj hcons).symm⟩
    · rintro ⟨bs', hb, hbs', rfl⟩
      exact ⟨hb, bs', hbs', rfl⟩

lemma exists_bind_error {x : Except ε α} {f : α → Except ε β} :
    (∃ e, (x >>= f) = .error e) ↔
      (∃ e, x = .error e) ∨ ∃ a, x = .ok a ∧ ∃ e, f a = .error e := by
  cases x <;> simp [bind, Except.bind]

/-- A list is read unless one of its members cannot be read. -/
lemma exists_mapM_error {f : α → Except ε β} {as : List α} :
    (∃ e, as.mapM f = .error e) ↔ ∃ a ∈ as, ∃ e, f a = .error e := by
  induction as with
  | nil => simp [pure, Except.pure]
  | cons a as ih =>
    rw [List.mapM_cons, exists_bind_error]
    simp only [exists_bind_error, ih, List.mem_cons, exists_eq_or_imp, pure, Except.pure,
      reduceCtorEq, exists_false, and_false, or_false]
    cases f a <;> simp

end Except

namespace Stored

variable {α β : Type} {storeKey : Bytes} {activity : Activity}

/-- A stored value that has to be parsed or opened, under the name that errors give it. -/
inductive Field
  | address (name text : String)
  | key (name text : String)
  | secret (name : String) (blob : Bytes)
deriving DecidableEq, Repr

namespace Field

/-- Why a parser or the cipher refuses a value. -/
def refused? : Except AgentError α → Option AgentError
  | .ok _ => none
  | .error cause => some cause

/-- Why the field is refused, if it is. -/
def refusal? (storeKey : Bytes) : Field → Option AgentError
  | address _ text => refused? (Address.parse text)
  | key _ text => refused? (Key.parse text)
  | secret _ blob => refused? (Secret.decrypt blob storeKey)

/-- The error of a read whose field is refused: it names the field and keeps the cause. -/
def error (activity : Activity) (cause : AgentError) : Field → AgentError
  | address name text | key name text =>
    { kind := .parse, reason := .storedText name text, activity := some activity
      entity := some name, causes := cause.toFault :: cause.causes }
  | secret name _ =>
    { kind := .crypto, reason := .storedSecret name cause.reason, activity := some activity
      entity := some name, causes := cause.toFault :: cause.causes }

/-- The error of a read at the field, if it is damaged. -/
def damage? (storeKey : Bytes) (activity : Activity) (f : Field) : Option AgentError :=
  (f.refusal? storeKey).map fun cause => f.error activity cause

end Field

/-- The error of a read at the first of its fields that is damaged. -/
def firstDamage? (storeKey : Bytes) (activity : Activity) (fs : List Field) : Option AgentError :=
  fs.findSome? fun f => f.damage? storeKey activity

lemma firstDamage?_eq_none {fs : List Field} :
    firstDamage? storeKey activity fs = none ↔ ∀ f ∈ fs, f.refusal? storeKey = none := by
  simp [firstDamage?, List.findSome?_eq_none_iff, Field.damage?]

/-- The result is an error exactly if a field is damaged, and then it is that of the first one. -/
def FailsAt (storeKey : Bytes) (activity : Activity) (fs : List Field) (x : Except AgentError α) :
    Prop :=
  ∀ e, x = .error e ↔ firstDamage? storeKey activity fs = some e

lemma failsAt_ok (a : α) : FailsAt storeKey activity [] (.ok a) := by
  intro e
  simp [firstDamage?]

lemma failsAt_field {f : Field} {x : Except AgentError α}
    (h : ∀ e, x = .error e ↔ f.damage? storeKey activity = some e) :
    FailsAt storeKey activity [f] x := by
  intro e
  simp [firstDamage?, h e]

lemma FailsAt.bind {fs gs : List Field} {x : Except AgentError α}
    {f : α → Except AgentError β} (hx : FailsAt storeKey activity fs x)
    (hf : ∀ a, FailsAt storeKey activity gs (f a)) :
    FailsAt storeKey activity (fs ++ gs) (x >>= f) := by
  intro e
  rw [firstDamage?, List.findSome?_append]
  cases hres : x with
  | error e' =>
    have hfirst := (hx e').mp hres
    rw [firstDamage?] at hfirst
    rw [hfirst, Option.some_or, Option.some.injEq]
    change Except.error e' = .error e ↔ e' = e
    rw [Except.error.injEq]
  | ok a =>
    have hnone : fs.findSome? (fun f => f.damage? storeKey activity) = none := by
      refine Option.eq_none_iff_forall_ne_some.mpr fun e' he' => ?_
      rw [(hx e').mpr he'] at hres
      simp at hres
    rw [hnone, Option.none_or]
    exact hf a e

lemma failsAt_mapM {fields : α → List Field} {f : α → Except AgentError β}
    (h : ∀ a, FailsAt storeKey activity (fields a) (f a)) (as : List α) :
    FailsAt storeKey activity (as.flatMap fields) (as.mapM f) := by
  induction as with
  | nil => exact failsAt_ok []
  | cons a as ih =>
    rw [List.mapM_cons, List.flatMap_cons]
    refine (h a).bind fun b => ?_
    rw [← List.append_nil (as.flatMap fields)]
    exact ih.bind fun bs => failsAt_ok (b :: bs)

lemma failsAt_address (name text : String) :
    FailsAt storeKey activity [.address name text] (parse Address.parse text activity name) := by
  refine failsAt_field fun e => ?_
  rw [parse, Field.damage?, Field.refusal?]
  cases Address.parse text <;>
    simp [Field.refused?, Field.error, AgentError.raisedFrom]

lemma failsAt_key (name text : String) :
    FailsAt storeKey activity [.key name text] (parse Key.parse text activity name) := by
  refine failsAt_field fun e => ?_
  rw [parse, Field.damage?, Field.refusal?]
  cases Key.parse text <;> simp [Field.refused?, Field.error, AgentError.raisedFrom]

lemma failsAt_secret (name : String) (blob : Bytes) :
    FailsAt storeKey activity [.secret name blob] (opened storeKey blob activity name) := by
  refine failsAt_field fun e => ?_
  rw [opened, Field.damage?, Field.refusal?]
  cases Secret.decrypt blob storeKey <;> simp [Field.refused?, Field.error, AgentError.raisedFrom]

/-- The fields of a peer. -/
def peerFields (p : PeerColumns) : List Field :=
  [.address "peer address" p.deviceAddr, .key "peer public key" p.publicKey]

/-- The fields of an interface and of its peers, in the order in which a read looks at them. -/
def fields (r : InterfaceRow) (peers : List PeerRow) : List Field :=
  [.address "network CIDR" r.netCidr, .address "device address" r.deviceAddr,
    .key "public key" r.publicKey, .secret "key" r.key, .secret "device token" r.deviceToken] ++
    peers.flatMap fun p => peerFields p.toPeerColumns

lemma failsAt_peer (p : PeerColumns) :
    FailsAt storeKey activity (peerFields p) (peer activity p) := by
  unfold peer
  exact (failsAt_address _ _).bind fun addr => (failsAt_key _ _).bind fun publicKey => failsAt_ok _

/-- A read fails for the first of its fields that is damaged, and for no other reason. -/
theorem failsAt_interface (storeKey : Bytes) (r : InterfaceRow) (peers : List PeerRow) :
    FailsAt storeKey (.queryInterface r.id) (fields r peers) (interface storeKey r peers) := by
  unfold interface
  refine (failsAt_address _ _).bind fun cidr => (failsAt_address _ _).bind fun addr =>
    (failsAt_key _ _).bind fun publicKey => (failsAt_secret _ _).bind fun privateKey =>
    (failsAt_secret _ _).bind fun token => ?_
  rw [← List.append_nil (peers.flatMap _)]
  exact (failsAt_mapM (fun p : PeerRow => failsAt_peer p.toPeerColumns) peers).bind fun devices =>
    failsAt_ok _

/-- What the columns of a peer say. -/
structure SaysPeer (p : PeerColumns) (d : Device) : Prop where
  id : d.id = p.deviceId
  name : d.name = p.deviceName
  endpoint : d.endpoint = p.deviceEndpoint
  addr : Address.parse p.deviceAddr = .ok d.addr
  publicKey : Key.parse p.publicKey = .ok d.publicKey

/-- What the columns of an interface and of its peers say: every text parsed, both secrets opened. -/
structure Says (storeKey : Bytes) (r : InterfaceRow) (peers : List PeerRow) (a : Interface) :
    Prop where
  id : a.id = r.id
  apiUrl : a.apiUrl = r.apiUrl
  networkId : a.network.id = r.netId
  networkName : a.network.name = r.netName
  cidr : Address.parse r.netCidr = .ok a.network.cidr
  deviceId : a.device.id = r.deviceId
  deviceName : a.device.name = r.deviceName
  endpoint : a.device.endpoint = r.deviceEndpoint
  addr : Address.parse r.deviceAddr = .ok a.device.addr
  publicKey : Key.parse r.publicKey = .ok a.device.publicKey
  listenPort : a.listenPort = r.listenPort.getD 0
  key : Secret.decrypt r.key storeKey = .ok a.key
  deviceToken : Secret.decrypt r.deviceToken storeKey = .ok a.deviceToken
  peers : List.Forall₂ (fun p d => SaysPeer p.toPeerColumns d) peers a.peers

lemma parse_eq_ok {read : String → Except AgentError α} {text name : String} {a : α} :
    parse read text activity name = .ok a ↔ read text = .ok a := by
  rw [parse]
  cases read text <;> simp

lemma opened_eq_ok {blob secret : Bytes} {name : String} :
    opened storeKey blob activity name = .ok secret ↔ Secret.decrypt blob storeKey = .ok secret := by
  rw [opened]
  cases Secret.decrypt blob storeKey <;> simp

lemma peer_eq_ok {p : PeerColumns} {d : Device} : peer activity p = .ok d ↔ SaysPeer p d := by
  simp only [peer, Except.bind_eq_ok, parse_eq_ok]
  constructor
  · rintro ⟨addr, haddr, publicKey, hkey, hd⟩
    obtain rfl := Except.ok.inj hd
    exact ⟨rfl, rfl, rfl, haddr, hkey⟩
  · intro h
    refine ⟨_, h.addr, _, h.publicKey, ?_⟩
    rw [← h.id, ← h.name, ← h.endpoint]
    rfl

/-- A read gives what its fields say. -/
theorem interface_eq_ok {r : InterfaceRow} {peers : List PeerRow} {a : Interface} :
    interface storeKey r peers = .ok a ↔ Says storeKey r peers a := by
  simp only [interface, Except.bind_eq_ok, parse_eq_ok, opened_eq_ok, Except.mapM_eq_ok, peer_eq_ok]
  constructor
  · rintro ⟨cidr, hcidr, addr, haddr, publicKey, hpublic, privateKey, hprivate, token, htoken,
      devices, hdevices, ha⟩
    obtain rfl := Except.ok.inj ha
    exact ⟨rfl, rfl, rfl, rfl, hcidr, rfl, rfl, rfl, haddr, hpublic, rfl, hprivate, htoken,
      hdevices⟩
  · intro h
    refine ⟨_, h.cidr, _, h.addr, _, h.publicKey, _, h.key, _, h.deviceToken, _, h.peers, ?_⟩
    rw [← h.id, ← h.apiUrl, ← h.networkId, ← h.networkName, ← h.deviceId, ← h.deviceName,
      ← h.endpoint, ← h.listenPort]
    rfl

end Stored

end MeshAgent
