import MeshAgent.Wire.Message

/-!
# Subscriptions

What the control plane says about a subscription and the plan attached to it.
-/
namespace MeshAgent

/-- Plan and quota of a subscription. -/
structure Plan where
  name : String := ""
  free : Bool := false
  deviceLimit : Int := 0
  expiresInDays : Int := 0
deriving DecidableEq, Repr

instance : Message Plan where
  ofFields _ fs :=
    Plan.mk
      <$> Field.optional "name" "name" "" Field.text fs
      <*> Field.optional "free" "free" false Field.bool fs
      <*> Field.optional "deviceLimit" "device_limit" 0 Field.int fs
      <*> Field.optional "expiresInDays" "expires_in_days" 0 Field.int fs
  toFields p :=
    [("name", .text p.name), ("free", .bool p.free), ("deviceLimit", .int p.deviceLimit),
     ("expiresInDays", .int p.expiresInDays)]

def DateTime.toDatum (d : DateTime) : Datum := .text (String.ofList d.write)

structure Subscription where
  id : String
  created : DateTime
  notBefore : Option DateTime := none
  notAfter : Option DateTime := none
  plan : Plan := {}
deriving DecidableEq, Repr

instance : Message Subscription where
  ofFields source fs :=
    Subscription.mk
      <$> Field.required "id" "id" Field.text fs
      <*> Field.required "created" "created" (Field.dateTime source) fs
      <*> Field.optional "notBefore" "not_before" none (Field.nullable (Field.dateTime source)) fs
      <*> Field.optional "notAfter" "not_after" none (Field.nullable (Field.dateTime source)) fs
      <*> Field.optional "plan" "plan" {} (Message.ofDatum source) fs
  toFields s :=
    [("id", .text s.id), ("created", s.created.toDatum)]
      ++ Field.present "notBefore" DateTime.toDatum s.notBefore
      ++ Field.present "notAfter" DateTime.toDatum s.notAfter
      ++ [("plan", Message.toDatum s.plan)]

structure SubscriptionList where
  subscriptions : List Subscription := []
deriving DecidableEq, Repr

instance : Message SubscriptionList where
  ofFields source fs :=
    SubscriptionList.mk
      <$> Field.optional "subscriptions" "subscriptions" [] (Field.list (Message.ofDatum source)) fs
  toFields l := [("subscriptions", .list (l.subscriptions.map Message.toDatum))]

/-- Token that authorizes device joins. -/
structure SubscriptionToken where
  id : String
  token : Bytes
deriving DecidableEq, Repr

/-- Bytes in the form in which they travel. -/
def Bytes.toDatum (b : Bytes) : Datum := .text (Base64.encode b)

instance : Message SubscriptionToken where
  ofFields _ fs :=
    SubscriptionToken.mk
      <$> Field.required "id" "id" Field.text fs
      <*> Field.required "token" "token" Field.base64 fs
  toFields t := [("id", .text t.id), ("token", Bytes.toDatum t.token)]

end MeshAgent
