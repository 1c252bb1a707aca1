import MeshAgent.Proofs.Secrecy.Statements

/-!
# Writing on twin stores

Entries and interfaces that are the same up to the bytes of secrets are written alike. What a write
says of an interface, in records and in errors, is its names, its id and the number of its peers;
keys are refused by their lengths.
-/
namespace MeshAgent

variable {α : Type} {k k' : Bytes} {R : α → α → Prop} {i i' : Interface} {h : Handle}

namespace Twins

/-- A row of the log is looked up and read alike. -/
lemma lookup (activity : Activity) (entity : Option String) (numbers : List Int)
    {find : Tables → Option LogRow}
    (hfind : ∀ t t', Tables.Twin k k' t t' → find t = find t') :
    Twins k k' Eq
      (do
        match ← Transaction.query h activity entity numbers find with
        | none => return none
        | some r => return some (← StoreM.lift (History.entryOfRow r)))
      (do
        match ← Transaction.query h activity entity numbers find with
        | none => return none
        | some r => return some (← StoreM.lift (History.entryOfRow r))) := by
  refine (query activity entity numbers hfind).bind fun row row' hrow => ?_
  subst hrow
  cases row with
  | none => exact Parallel.pure rfl
  | some r =>
    exact (lift_eq rfl).map fun _ _ he => congrArg some he

lemma last (hi : i.Twin i') :
    Twins k k' Eq (History.last h i) (History.last h i') := by
  obtain ⟨key, token, -, -, rfl⟩ := hi.exists_eq
  refine lookup _ _ _ fun t t' ht => ?_
  rw [Tables.lastLog?, Tables.lastLog?, ht.log_eq]

lemma lastNamed (device network : String) :
    Twins k k' Eq (History.lastNamed h device network) (History.lastNamed h device network) :=
  lookup _ _ _ fun _ _ ht => ht.lastLogNamed? device network

lemma currentSecond : Twins k k' Eq History.currentSecond History.currentSecond := by
  refine Parallel.get fun s s' hs => ?_
  rw [hs.now]
  exact (lift_eq rfl).bind fun _ _ _ => Parallel.pure rfl

lemma append (hi : i.Twin i') (operation : Operation) (state : State) (dirty : Bool)
    (message : String) :
    Twins k k' Eq (History.append h i operation state dirty message)
      (History.append h i' operation state dirty message) := by
  obtain ⟨key, token, -, -, rfl⟩ := hi.exists_eq
  refine currentSecond.bind fun seconds seconds' hseconds => ?_
  subst hseconds
  refine (execute _ _ _ (twinStatements_appendLog _)).bind fun id id' hid => ?_
  subst hid
  exact (record _ _ _).bind fun _ _ _ => Parallel.pure rfl

lemma appendNamed (hi : i.Twin i') (operation state : String) (dirty : Bool)
    (message : String) :
    Twins k k' Eq (History.appendNamed h i operation state dirty message)
      (History.appendNamed h i' operation state dirty message) := by
  refine currentSecond.bind fun _ _ _ => ?_
  cases Operation.ofName? operation with
  | none => exact Parallel.throw _
  | some o =>
    cases State.ofName? state with
    | none => exact Parallel.throw _
    | some st => exact append hi o st dirty message

section

variable (hk : k.length = SecretBox.keySize) (hk' : k'.length = SecretBox.keySize)
include hk hk'

/-- Sealing a secret tells its length, and the key opens what it has sealed. -/
lemma sealed {secret secret' : Bytes} (hlength : secret.length = secret'.length) :
    Twins k k' (fun b b' => b.length = b'.length ∧ Secret.Opens k b ∧ Secret.Opens k' b')
      (StoreM.sealed secret) (StoreM.sealed secret') := by
  refine (draw _).bind fun n n' hn => Parallel.get fun s s' hs => ?_
  rw [hs.left, hs.right, Secret.encrypt_eq hk, Secret.encrypt_eq hk']
  refine lift (.ok ⟨?_, ⟨secret, Secret.decrypt_blob hk hn.1 secret⟩,
    ⟨secret', Secret.decrypt_blob hk' hn.2 secret'⟩⟩)
  rw [Secret.length_blob, Secret.length_blob, hn.1, hn.2, hlength]

/-- An interface is written alike, whatever its secrets are. -/
lemma ensureInterfaceIn (hi : i.Twin i') :
    Twins k k' Eq (Store.ensureInterfaceIn h i) (Store.ensureInterfaceIn h i') := by
  obtain ⟨key, token, hkey, htoken, rfl⟩ := hi.exists_eq
  have hcheck : i.checkKeys (.upsertInterface i.label) =
      ({ i with key, deviceToken := token } : Interface).checkKeys (.upsertInterface i.label) := by
    rw [Interface.checkKeys, Interface.checkKeys, Key.check_of_length hkey.symm]
  unfold Store.ensureInterfaceIn
  simp only
  refine (lift_eq (congrArg orFail hcheck)).bind fun _ _ _ => Parallel.get fun s s' hs => ?_
  rw [hs.now]
  refine (sealed hk hk' hkey.symm).bind fun b b' hb => ?_
  refine (sealed hk hk' htoken.symm).bind fun d d' hd => ?_
  have hmasked : (i.toColumns b d).masked =
      (({ i with key, deviceToken := token } : Interface).toColumns b' d').masked := by
    simp [Interface.toColumns, InterfaceColumns.masked, Bytes.masked, hb.1, hd.1]
  refine (execute _ _ _ (twinStatements_upsertInterface _ _ hmasked ⟨hb.2.1, hd.2.1⟩
    ⟨hb.2.2, hd.2.2⟩)).bind fun id id' hid => ?_
  subst hid
  refine (execute _ _ _ (twinStatements_deletePeers id)).bind fun _ _ _ => ?_
  refine (Parallel.forM (fun p => execute _ _ _ (twinStatements_insertPeer id _)) i.peers).bind
    fun _ _ _ => ?_
  refine .ite ?_ ?_
  · exact (record _ _ _).bind fun _ _ _ => Parallel.pure rfl
  · exact (record _ _ _).bind fun _ _ _ => Parallel.pure rfl

end

end Twins

end MeshAgent
