import MeshAgent.Proofs.Wire.Messages

/-!
# Messages are read as they were sent

The types of messages side by side. A message can be made exactly if its dates lie in the calendar. What
can be made and has no number of too many digits is read from the text that is sent for it, unless a
caller gave it a date with an offset that the text cannot hold.
-/
namespace MeshAgent

section

variable {α : Type} [Message α] {m : α}

end

/-- The types of messages that travel. -/
inductive MessageKind
  | plan
  | subscription
  | subscriptionList
  | subscriptionToken
  | network
  | device
  | joinRequest
  | joinResponse
  | refreshRequest
deriving DecidableEq, Repr

namespace MessageKind

abbrev Value : MessageKind → Type
  | plan => Plan
  | subscription => Subscription
  | subscriptionList => SubscriptionList
  | subscriptionToken => SubscriptionToken
  | network => Network
  | device => Device
  | joinRequest => JoinRequest
  | joinResponse => JoinResponse
  | refreshRequest => RefreshRequest

instance : (k : MessageKind) → Message k.Value
  | plan => inferInstanceAs (Message Plan)
  | subscription => inferInstanceAs (Message Subscription)
  | subscriptionList => inferInstanceAs (Message SubscriptionList)
  | subscriptionToken => inferInstanceAs (Message SubscriptionToken)
  | network => inferInstanceAs (Message Network)
  | device => inferInstanceAs (Message Device)
  | joinRequest => inferInstanceAs (Message JoinRequest)
  | joinResponse => inferInstanceAs (Message JoinResponse)
  | refreshRequest => inferInstanceAs (Message RefreshRequest)

/-- The integers of a message, those of its parts included. -/
def integers : (k : MessageKind) → k.Value → List Int
  | plan, p => p.integers
  | subscription, s => s.plan.integers
  | subscriptionList, l => l.integers
  | joinRequest, r => r.availablePort.toList
  | joinResponse, r => r.plan.integers
  | _, _ => []

/-- The dates of a message, those of its parts included. -/
def dates : (k : MessageKind) → k.Value → List DateTime
  | subscription, s => s.dates
  | subscriptionList, l => l.dates
  | _, _ => []

/-- The wire names of the fields of a message in order, and whether the field has a value. To a refresh
what is empty is no value. -/
def columns : (k : MessageKind) → k.Value → List (String × Bool)
  | plan, _ => [("name", true), ("free", true), ("deviceLimit", true), ("expiresInDays", true)]
  | subscription, s =>
    [("id", true), ("created", true), ("notBefore", s.notBefore.isSome),
     ("notAfter", s.notAfter.isSome), ("plan", true)]
  | subscriptionList, _ => [("subscriptions", true)]
  | subscriptionToken, _ => [("id", true), ("token", true)]
  | network, _ => [("id", true), ("name", true), ("address", true)]
  | device, _ =>
    [("id", true), ("name", true), ("endpoint", true), ("addr", true), ("publicKey", true)]
  | joinRequest, r =>
    [("name", true), ("network", r.network.isSome), ("machineId", true), ("key", true),
     ("endpoint", r.endpoint.isSome), ("availableAddr", r.availableAddr.isSome),
     ("availablePort", r.availablePort.isSome)]
  | joinResponse, _ =>
    [("network", true), ("device", true), ("peers", true), ("plan", true), ("token", true)]
  | refreshRequest, r =>
    [("name", r.name ≠ ""), ("key", r.key ≠ []), ("endpoint", r.endpoint ≠ "")]

variable {k : MessageKind} {m : k.Value}

lemma ofDatum_toDatum (source : Field.Source) (h : ∀ d ∈ k.dates m, d.Valid)
    (hwire : ∀ d ∈ k.dates m, d.OnWire) :
    Message.ofDatum source (Message.toDatum m) = .ok m := by
  cases k with
  | plan => exact Plan.ofDatum_toDatum source m
  | subscription => exact Subscription.ofDatum_toDatum source h hwire
  | subscriptionList => exact SubscriptionList.ofDatum_toDatum source h hwire
  | subscriptionToken => exact SubscriptionToken.ofDatum_toDatum source m
  | network => exact Network.ofDatum_toDatum source m
  | device => exact Device.ofDatum_toDatum source m
  | joinRequest => exact JoinRequest.ofDatum_toDatum source m
  | joinResponse => exact JoinResponse.ofDatum_toDatum source m
  | refreshRequest => exact RefreshRequest.ofDatum_toDatum source m

lemma onWire_of_ofFields {source : Field.Source} {fields : Field.Fields}
    (hunread : ∀ f ∈ fields, Field.Unread source f.2) (h : Message.ofFields source fields = .ok m) :
    ∀ d ∈ k.dates m, d.OnWire := by
  cases k with
  | subscription => exact Subscription.onWire_of_ofFields hunread h
  | subscriptionList => exact SubscriptionList.onWire_of_ofFields hunread h
  | _ => exact nofun

/-- The height of a message in lists and records. -/
def height : MessageKind → Nat
  | subscription => 2
  | subscriptionList => 4
  | joinResponse => 3
  | _ => 1

lemma fits (hints : ∀ n ∈ k.integers m, Json.IsShort n) (depth : Nat) :
    Json.Fits (depth + k.height) (Message.toDatum m) := by
  cases k with
  | plan => exact Plan.fits hints depth
  | subscription => exact Subscription.fits hints depth
  | subscriptionList => exact SubscriptionList.fits hints depth
  | subscriptionToken => exact SubscriptionToken.fits m depth
  | network => exact Network.fits m depth
  | device => exact Device.fits m depth
  | joinRequest => exact JoinRequest.fits (fun n hn => hints n (Option.mem_toList.mpr hn)) depth
  | joinResponse => exact JoinResponse.fits hints depth
  | refreshRequest => exact RefreshRequest.fits m depth

end MessageKind

end MeshAgent
