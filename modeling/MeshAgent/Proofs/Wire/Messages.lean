import MeshAgent.Proofs.Json.Written
import MeshAgent.Proofs.Wire.Fields
import MeshAgent.Wire.Refresh

/-!
# Messages and their fields

For each type of message: its fields are read as they were written, its JSON is of bounded height, and the
dates in it lie in the calendar. Only dates can keep a record from being read back, and only numbers can
keep its JSON from being read at all.
-/
namespace MeshAgent

/-- A record is read by its fields. -/
lemma Message.ofDatum_toDatum {α : Type} [Message α] (source : Field.Source) (m : α) :
    (Message.ofDatum source (Message.toDatum m) : Checked α) =
      Message.ofFields source (Message.toFields m) := rfl

/-! ## Fields that are not always sent -/

namespace Json

variable {α : Type} {depth : Nat} {name : String} {d : Datum}

lemma fits_present {write : α → Datum} {o : Option α} (h : ∀ a ∈ o, Fits depth (write a)) :
    ∀ f ∈ Field.present name write o, Fits depth f.2 := by
  cases o with
  | none => exact nofun
  | some a =>
    intro f hf
    obtain rfl := List.mem_singleton.mp hf
    exact h a rfl

lemma fits_unless {c : Prop} [Decidable c] (h : Fits depth d) :
    ∀ f ∈ (if c then [] else [(name, d)]), Fits depth f.2 := by
  split
  · exact nofun
  · intro f hf
    obtain rfl := List.mem_singleton.mp hf
    exact h

/-- A number that has no more digits than are read. -/
def IsShort (n : Int) : Prop := (Decimal.write n.natAbs).length ≤ Decimal.digitLimit

end Json

variable {source : Field.Source} {fs : Field.Fields}

/-! ## Subscriptions -/

namespace Plan

def integers (p : Plan) : List Int := [p.deviceLimit, p.expiresInDays]

@[simp] lemma ofDatum_toDatum (source : Field.Source) (p : Plan) :
    Message.ofDatum source (Message.toDatum p) = .ok p := by
  rw [Message.ofDatum_toDatum]
  simp [Message.ofFields, Message.toFields, Field.optional, Field.find?, Datum.find?]

lemma fits {p : Plan} (hints : ∀ n ∈ p.integers, Json.IsShort n) (depth : Nat) :
    Json.Fits (depth + 1) (Message.toDatum p) := by
  have hlimit := hints p.deviceLimit (by simp [integers])
  have hdays := hints p.expiresInDays (by simp [integers])
  refine .record ?_
  simp only [Message.toFields, List.forall_mem_cons]
  exact ⟨.text _, .bool _, .int hlimit, .int hdays, nofun⟩

end Plan

namespace Subscription

def dates (s : Subscription) : List DateTime :=
  s.created :: (s.notBefore.toList ++ s.notAfter.toList)

/-- The fields of a subscription with its dates in any form. -/
def fieldsWith (write : DateTime → Datum) (s : Subscription) : Field.Fields :=
  [("id", .text s.id), ("created", write s.created)]
    ++ Field.present "notBefore" write s.notBefore
    ++ Field.present "notAfter" write s.notAfter
    ++ [("plan", Message.toDatum s.plan)]

lemma ofFields_fieldsWith {write : DateTime → Datum} {s : Subscription}
    (hread : ∀ d ∈ s.dates, Field.dateTime source (write d) = .ok d)
    (hnull : ∀ d, write d ≠ .null) : Message.ofFields source (s.fieldsWith write) = .ok s := by
  obtain ⟨id, created, before, after, plan⟩ := s
  have hcreated := hread created (by simp [dates])
  have hbefore : ∀ d ∈ before, Field.nullable (Field.dateTime source) (write d) = .ok (some d) :=
    fun d hd => Field.nullable_of_ne_null (hnull d) (hread d (by simp_all [dates]))
  have hafter : ∀ d ∈ after, Field.nullable (Field.dateTime source) (write d) = .ok (some d) :=
    fun d hd => Field.nullable_of_ne_null (hnull d) (hread d (by simp_all [dates]))
  cases before <;> cases after <;>
    simp_all [Message.ofFields, fieldsWith, Field.required, Field.optional, Field.find?,
      Field.present, Datum.find?]

lemma ofDatum_toDatum (source : Field.Source) {s : Subscription} (h : ∀ d ∈ s.dates, d.Valid)
    (hwire : ∀ d ∈ s.dates, d.OnWire) :
    Message.ofDatum source (Message.toDatum s) = .ok s :=
  @ofFields_fieldsWith source DateTime.toDatum s
    (fun d hd => Field.dateTime_toDatum source (h d hd) (hwire d hd)) (fun _ => nofun)

lemma fits {s : Subscription} (hints : ∀ n ∈ s.plan.integers, Json.IsShort n) (depth : Nat) :
    Json.Fits (depth + 2) (Message.toDatum s) := by
  refine .record ?_
  simp only [Message.toFields, List.forall_mem_append, List.forall_mem_cons]
  exact ⟨⟨⟨⟨.text _, .text _, nofun⟩, Json.fits_present fun _ _ => .text _⟩,
    Json.fits_present fun _ _ => .text _⟩, Plan.fits hints depth, nofun⟩

/-- Each date was found in a field. -/
lemma exists_of_ofFields {s : Subscription} (h : Message.ofFields source fs = .ok s) :
    ∀ d ∈ s.dates, ∃ f ∈ fs, Field.dateTime source f.2 = .ok d := by
  obtain ⟨_, plan, hfour, -, rfl⟩ := Checked.seq_eq_ok.mp h
  obtain ⟨_, after, hthree, hafter, rfl⟩ := Checked.seq_eq_ok.mp hfour
  obtain ⟨_, before, htwo, hbefore, rfl⟩ := Checked.seq_eq_ok.mp hthree
  obtain ⟨_, created, hone, hcreated, rfl⟩ := Checked.seq_eq_ok.mp htwo
  obtain ⟨id, -, rfl⟩ := Checked.map_eq_ok.mp hone
  intro d hd
  rcases List.mem_cons.mp hd with rfl | hd
  · exact Field.exists_of_required hcreated
  · rcases List.mem_append.mp hd with hd | hd
    · exact Field.exists_of_missing hbefore d (Option.mem_toList.mp hd)
    · exact Field.exists_of_missing hafter d (Option.mem_toList.mp hd)

lemma onWire_of_ofFields {s : Subscription} (hfields : ∀ f ∈ fs, Field.Unread source f.2)
    (h : Message.ofFields source fs = .ok s) : ∀ d ∈ s.dates, d.OnWire := by
  intro d hd
  obtain ⟨f, hf, hread⟩ := exists_of_ofFields h d hd
  exact (Field.valid_of_dateTime hread).2 (hfields f hf)

end Subscription

namespace SubscriptionList

def dates (l : SubscriptionList) : List DateTime := l.subscriptions.flatMap Subscription.dates

def integers (l : SubscriptionList) : List Int := l.subscriptions.flatMap fun s => s.plan.integers

lemma ofFields_map {write : Subscription → Datum} {l : SubscriptionList}
    (hread : ∀ s ∈ l.subscriptions, Message.ofDatum source (write s) = .ok s) :
    Message.ofFields source [("subscriptions", .list (l.subscriptions.map write))] = .ok l := by
  have hlist := Field.list_map hread
  simp [Message.ofFields, Field.optional, Field.find?, Datum.find?, hlist]

lemma ofDatum_toDatum (source : Field.Source) {l : SubscriptionList} (h : ∀ d ∈ l.dates, d.Valid)
    (hwire : ∀ d ∈ l.dates, d.OnWire) :
    Message.ofDatum source (Message.toDatum l) = .ok l :=
  ofFields_map fun _ hs => Subscription.ofDatum_toDatum source
    (fun d hd => h d (List.mem_flatMap_of_mem hs hd))
    (fun d hd => hwire d (List.mem_flatMap_of_mem hs hd))

lemma fits {l : SubscriptionList} (hints : ∀ n ∈ l.integers, Json.IsShort n) (depth : Nat) :
    Json.Fits (depth + 4) (Message.toDatum l) := by
  refine .record ?_
  simp only [Message.toFields, List.forall_mem_cons]
  refine ⟨.list ?_, nofun⟩
  rw [List.forall_mem_map]
  exact fun s hs => Subscription.fits (fun n hn => hints n (List.mem_flatMap_of_mem hs hn)) depth

/-- Each subscription was read from a record of the list. -/
lemma exists_of_ofFields {l : SubscriptionList} (h : Message.ofFields source fs = .ok l) :
    ∀ s ∈ l.subscriptions, ∃ fields, ((∀ f ∈ fs, Field.Unread source f.2) →
      ∀ f ∈ fields, Field.Unread source f.2) ∧ Message.ofFields source fields = .ok s := by
  obtain ⟨items, hitems, rfl⟩ := Checked.map_eq_ok.mp h
  intro s hs
  rcases Field.exists_of_optional hitems with rfl | ⟨f, hf, hlist⟩
  · exact nomatch hs
  · obtain ⟨ds, hds, hread⟩ := Field.exists_of_mem_list hlist
    obtain ⟨e, he, hread⟩ := hread s hs
    obtain ⟨fields, rfl, hread⟩ := Field.exists_of_record hread
    refine ⟨fields, fun hunread => ?_, hread⟩
    have hf := hunread f hf
    rw [hds] at hf
    exact (hf.of_list _ he).of_record

lemma onWire_of_ofFields {l : SubscriptionList} (hfields : ∀ f ∈ fs, Field.Unread source f.2)
    (h : Message.ofFields source fs = .ok l) : ∀ d ∈ l.dates, d.OnWire := by
  intro d hd
  obtain ⟨s, hs, hd⟩ := List.mem_flatMap.mp hd
  obtain ⟨_, hunread, hread⟩ := exists_of_ofFields h s hs
  exact Subscription.onWire_of_ofFields (hunread hfields) hread d hd

end SubscriptionList

namespace SubscriptionToken

lemma ofDatum_toDatum (source : Field.Source) (t : SubscriptionToken) :
    Message.ofDatum source (Message.toDatum t) = .ok t := by
  rw [Message.ofDatum_toDatum]
  simp [Message.ofFields, Message.toFields, Field.required, Field.find?, Datum.find?]

lemma fits (t : SubscriptionToken) (depth : Nat) : Json.Fits (depth + 1) (Message.toDatum t) := by
  refine .record ?_
  simp only [Message.toFields, List.forall_mem_cons]
  exact ⟨.text _, .text _, nofun⟩

end SubscriptionToken

/-! ## Networks and devices -/

namespace Network

@[simp] lemma ofDatum_toDatum (source : Field.Source) (n : Network) :
    Message.ofDatum source (Message.toDatum n) = .ok n := by
  rw [Message.ofDatum_toDatum]
  simp [Message.ofFields, Message.toFields, Field.required, Field.find?, Datum.find?]

lemma fits (n : Network) (depth : Nat) : Json.Fits (depth + 1) (Message.toDatum n) := by
  refine .record ?_
  simp only [Message.toFields, List.forall_mem_cons]
  exact ⟨.text _, .text _, .text _, nofun⟩

end Network

namespace Device

@[simp] lemma ofDatum_toDatum (source : Field.Source) (d : Device) :
    Message.ofDatum source (Message.toDatum d) = .ok d := by
  rw [Message.ofDatum_toDatum]
  simp [Message.ofFields, Message.toFields, Field.required, Field.optional, Field.find?, Datum.find?]

lemma fits (d : Device) (depth : Nat) : Json.Fits (depth + 1) (Message.toDatum d) := by
  refine .record ?_
  simp only [Message.toFields, List.forall_mem_cons]
  exact ⟨.text _, .text _, .text _, .text _, .text _, nofun⟩

end Device

/-! ## Joining and refreshing -/

namespace JoinRequest

lemma ofDatum_toDatum (source : Field.Source) (r : JoinRequest) :
    Message.ofDatum source (Message.toDatum r) = .ok r := by
  obtain ⟨name, network, machineId, key, endpoint, addr, port⟩ := r
  rw [Message.ofDatum_toDatum]
  cases network <;> cases endpoint <;> cases addr <;> cases port <;>
    simp [Message.ofFields, Message.toFields, Field.required, Field.optional, Field.find?,
      Field.present, Datum.find?]

lemma fits {r : JoinRequest} (hport : ∀ n ∈ r.availablePort, Json.IsShort n) (depth : Nat) :
    Json.Fits (depth + 1) (Message.toDatum r) := by
  refine .record ?_
  simp only [Message.toFields, List.forall_mem_append, List.forall_mem_cons]
  exact ⟨⟨⟨⟨⟨⟨.text _, nofun⟩, Json.fits_present fun _ _ => .text _⟩, .text _, .text _, nofun⟩,
    Json.fits_present fun _ _ => .text _⟩, Json.fits_present fun _ _ => .text _⟩,
    Json.fits_present fun n hn => .int (hport n hn)⟩

end JoinRequest

namespace JoinResponse

lemma ofDatum_toDatum (source : Field.Source) (r : JoinResponse) :
    Message.ofDatum source (Message.toDatum r) = .ok r := by
  have hpeers := @Field.list_map _ (Message.ofDatum source) _ r.peers fun d _ =>
    Device.ofDatum_toDatum source d
  rw [Message.ofDatum_toDatum]
  simp [Message.ofFields, Message.toFields, Field.required, Field.optional, Field.find?,
    Datum.find?, hpeers]

lemma fits {r : JoinResponse} (hints : ∀ n ∈ r.plan.integers, Json.IsShort n) (depth : Nat) :
    Json.Fits (depth + 3) (Message.toDatum r) := by
  refine .record ?_
  simp only [Message.toFields, List.forall_mem_cons]
  refine ⟨r.network.fits _, r.device.fits _, .list ?_, Plan.fits hints _, .text _, nofun⟩
  rw [List.forall_mem_map]
  exact fun d _ => d.fits depth

end JoinResponse

namespace RefreshRequest

lemma ofDatum_toDatum (source : Field.Source) (r : RefreshRequest) :
    Message.ofDatum source (Message.toDatum r) = .ok r := by
  obtain ⟨name, key, endpoint⟩ := r
  rw [Message.ofDatum_toDatum]
  by_cases hname : name = "" <;> by_cases hkey : key = [] <;> by_cases hend : endpoint = "" <;>
    simp [Message.ofFields, Message.toFields, Field.optional, Field.find?, Datum.find?, hname, hkey,
      hend]

lemma fits (r : RefreshRequest) (depth : Nat) : Json.Fits (depth + 1) (Message.toDatum r) := by
  refine .record ?_
  simp only [Message.toFields, List.forall_mem_append]
  exact ⟨⟨Json.fits_unless (.text _), Json.fits_unless (.text _)⟩, Json.fits_unless (.text _)⟩

end RefreshRequest

end MeshAgent
