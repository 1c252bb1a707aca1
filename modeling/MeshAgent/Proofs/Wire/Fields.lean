import MeshAgent.Proofs.Address.Printed
import MeshAgent.Proofs.DateTime.Valid
import MeshAgent.Proofs.Key.Written
import MeshAgent.Wire.Subscription
import MeshAgent.Wire.Topology

/-!
# Fields that are read back

The value of a field is read as it was written. Going the other way, a field that was read holds its
default or what its reader gave.
-/
namespace MeshAgent

/-- A value that holds no date of a caller: every date in it has still to be read. -/
inductive Datum.Timeless : Datum → Prop
  | null : Timeless .null
  | bool (b : Bool) : Timeless (.bool b)
  | int (n : Int) : Timeless (.int n)
  | real (x : Binary64) : Timeless (.real x)
  | text (s : String) : Timeless (.text s)
  | bytes (b : Bytes) : Timeless (.bytes b)
  | list {items : List Datum} : (∀ d ∈ items, Timeless d) → Timeless (.list items)
  | record {fields : List (String × Datum)} :
    (∀ f ∈ fields, Timeless f.2) → Timeless (.record fields)
  | foreign : Timeless .foreign

lemma Datum.mem_of_find? {fs : List (String × Datum)} {name : String} {d : Datum}
    (h : find? fs name = some d) : (name, d) ∈ fs := by
  induction fs with
  | nil => exact nomatch h
  | cons f fs ih =>
    obtain ⟨n, v⟩ := f
    rw [find?] at h
    split at h
    · rename_i w hw
      exact List.mem_cons_of_mem _ (ih (hw.trans h))
    · split at h
      · rename_i hname
        cases h
        exact hname ▸ List.mem_cons_self
      · exact nomatch h

namespace Checked

variable {α β : Type}

lemma map_eq_ok {f : α → β} {x : Checked α} {b : β} : f <$> x = ok b ↔ ∃ a, x = ok a ∧ f a = b := by
  cases x with
  | ok a => simp
  | bad es => exact ⟨nofun, nofun⟩

lemma seq_eq_ok {f : Checked (α → β)} {x : Checked α} {b : β} :
    f <*> x = ok b ↔ ∃ g a, f = ok g ∧ x = ok a ∧ g a = b := by
  cases f with
  | ok g =>
    cases x with
    | ok a => simp
    | bad es => exact ⟨nofun, nofun⟩
  | bad es => cases x <;> exact ⟨nofun, nofun⟩

lemma under_eq_ok {step : PathStep} {x : Checked α} {a : α} : x.under step = ok a ↔ x = ok a := by
  cases x with
  | ok a => rfl
  | bad es => exact ⟨nofun, nofun⟩

lemma ofExcept_eq_ok {x : Except FieldProblem α} {a : α} : ofExcept x = ok a ↔ x = .ok a := by
  cases x with
  | ok a => simp [ofExcept]
  | error p => exact ⟨nofun, nofun⟩

end Checked

namespace Field

variable {α : Type} {read : Datum → Checked α} {write : α → Datum} {wire own : String} {fs : Fields}

/-! ## From a value to its field and back -/

@[simp] lemma text_text (s : String) : text (.text s) = .ok s := rfl

@[simp] lemma bool_bool (b : Bool) : bool (.bool b) = .ok b := rfl

@[simp] lemma int_int (n : Int) : int (.int n) = .ok n := rfl

@[simp] lemma base64_toDatum (b : Bytes) : base64 b.toDatum = .ok b := by
  simp only [Bytes.toDatum, base64, Base64.decode_encode]

@[simp] lemma address_toDatum (a : Address) : address a.toDatum = .ok a := by
  simp only [Address.toDatum, address, Address.ofText?_text]

lemma dateTime_toDatum (source : Source) {d : DateTime} (h : d.Valid) (hwire : d.OnWire) :
    dateTime source d.toDatum = .ok d := by
  rw [DateTime.toDatum, dateTime, String.toList_ofList, DateTime.ofText_write h hwire,
    Checked.ofExcept]

/-- A value that is there and is not written as `null`. -/
lemma nullable_of_ne_null {d : Datum} {a : α} (hnull : d ≠ .null) (hread : read d = .ok a) :
    nullable read d = .ok (some a) := by
  rw [nullable.eq_2 _ _ hnull, hread]
  rfl

@[simp] lemma nullable_text (s : String) : nullable text (.text s) = .ok (some s) := rfl

@[simp] lemma nullable_int (n : Int) : nullable int (.int n) = .ok (some n) := rfl

@[simp] lemma nullable_address_toDatum (a : Address) :
    nullable address a.toDatum = .ok (some a) := nullable_of_ne_null nofun (address_toDatum a)

lemma itemsFrom_map {as : List α} (hread : ∀ a ∈ as, read (write a) = .ok a) (i : Nat) :
    itemsFrom read i (as.map write) = .ok as := by
  induction as generalizing i with
  | nil => rfl
  | cons a as ih =>
    rw [List.map_cons, itemsFrom, hread a List.mem_cons_self,
      ih fun b hb => hread b (List.mem_cons_of_mem a hb)]
    rfl

lemma list_map {as : List α} (hread : ∀ a ∈ as, read (write a) = .ok a) :
    list read (.list (as.map write)) = .ok as := itemsFrom_map hread 0

/-! ## From what was read to how it was read -/

lemma mem_of_find? {name : String} {d : Datum} (h : find? wire own fs = some (name, d)) :
    (name, d) ∈ fs := by
  rw [find?] at h
  split at h
  · rename_i d' hd
    cases h
    exact Datum.mem_of_find? hd
  · cases hown : Datum.find? fs own with
    | none => simp [hown] at h
    | some d' =>
      rw [hown] at h
      cases h
      exact Datum.mem_of_find? hown

lemma exists_of_required {a : α} (h : required wire own read fs = .ok a) :
    ∃ f ∈ fs, read f.2 = .ok a := by
  rw [required] at h
  split at h
  · rename_i hfind
    exact ⟨_, mem_of_find? hfind, Checked.under_eq_ok.mp h⟩
  · exact nomatch h

lemma exists_of_optional {default a : α} (h : optional wire own default read fs = .ok a) :
    a = default ∨ ∃ f ∈ fs, read f.2 = .ok a := by
  rw [optional] at h
  split at h
  · rename_i hfind
    exact Or.inr ⟨_, mem_of_find? hfind, Checked.under_eq_ok.mp h⟩
  · cases h
    exact Or.inl rfl

lemma of_nullable {o : Option α} {d : Datum} (h : nullable read d = .ok o) :
    ∀ a ∈ o, read d = .ok a := by
  rintro a rfl
  rw [nullable.eq_def] at h
  split at h
  · exact nomatch h
  · obtain ⟨b, hb, heq⟩ := Checked.map_eq_ok.mp h
    exact Option.some.inj heq ▸ hb

lemma exists_of_missing {o : Option α} (h : optional wire own none (nullable read) fs = .ok o) :
    ∀ a ∈ o, ∃ f ∈ fs, read f.2 = .ok a := by
  rcases exists_of_optional h with rfl | ⟨f, hf, hread⟩
  · exact nofun
  · exact fun a ha => ⟨f, hf, of_nullable hread a ha⟩

lemma exists_of_mem_itemsFrom {i : Nat} {items : List Datum} {as : List α}
    (h : itemsFrom read i items = .ok as) : ∀ a ∈ as, ∃ d ∈ items, read d = .ok a := by
  induction items generalizing i as with
  | nil =>
    cases h
    exact nofun
  | cons d items ih =>
    rw [itemsFrom] at h
    obtain ⟨_, bs, hfirst, hrest, rfl⟩ := Checked.seq_eq_ok.mp h
    obtain ⟨b, hb, rfl⟩ := Checked.map_eq_ok.mp hfirst
    intro a ha
    rcases List.mem_cons.mp ha with rfl | ha
    · exact ⟨d, List.mem_cons_self, Checked.under_eq_ok.mp hb⟩
    · obtain ⟨e, he, hread⟩ := ih hrest a ha
      exact ⟨e, List.mem_cons_of_mem d he, hread⟩

lemma exists_of_mem_list {as : List α} {d : Datum} (h : list read d = .ok as) :
    ∃ items, d = .list items ∧ ∀ a ∈ as, ∃ e ∈ items, read e = .ok a := by
  cases d with
  | list items => exact ⟨items, rfl, exists_of_mem_itemsFrom h⟩
  | _ => exact nomatch h

lemma exists_of_record {readFields : Fields → Checked α} {d : Datum} {a : α}
    (h : record readFields d = .ok a) : ∃ fs, d = .record fs ∧ readFields fs = .ok a := by
  cases d with
  | record fs => exact ⟨fs, rfl, h⟩
  | _ => exact nomatch h

/-! ## Dates that are read or given -/

/-- A value whose dates have all to be read: one that was received, or one of a caller without dates. -/
def Unread (source : Source) (d : Datum) : Prop := source = .wire ∨ d.Timeless

lemma Unread.of_list {source : Source} {items : List Datum} (h : Unread source (.list items)) :
    ∀ d ∈ items, Unread source d := by
  rcases h with h | h
  · exact fun _ _ => Or.inl h
  · cases h with
    | list h => exact fun d hd => Or.inr (h d hd)

lemma Unread.of_record {source : Source} (h : Unread source (.record fs)) :
    ∀ f ∈ fs, Unread source f.2 := by
  rcases h with h | h
  · exact fun _ _ => Or.inl h
  · cases h with
    | record h => exact fun f hf => Or.inr (h f hf)

/-- Only dates of the calendar are read, from texts and from numbers; only a caller gives one with an
offset that is not in whole minutes. -/
lemma valid_of_dateTime {source : Source} {d : Datum} {t : DateTime}
    (h : dateTime source d = .ok t) : t.Valid ∧ (Unread source d → t.OnWire) := by
  have htold : ∀ o : Option DateTime, (∀ u ∈ o, u.Told) → dateTime.ofOption o = .ok t →
      t.Valid ∧ t.OnWire := by
    rintro (_ | u) hu ho
    · exact nomatch ho
    · exact (hu u rfl).of_checkYear (Checked.ofExcept_eq_ok.mp ho)
  cases d with
  | text s => exact (DateTime.valid_of_ofText (Checked.ofExcept_eq_ok.mp h)).imp_right fun ht _ => ht
  | bytes b =>
    rw [dateTime] at h
    split at h
    · exact (DateTime.valid_of_ofText (Checked.ofExcept_eq_ok.mp h)).imp_right fun ht _ => ht
    · exact nomatch h
  | int n =>
    rw [dateTime] at h
    split at h
    · exact (htold _ (fun u hu => DateTime.told_of_ofNumber? hu) h).imp_right fun ht _ => ht
    · exact nomatch h
  | real x => exact (htold _ (fun u hu => DateTime.told_of_ofBinary? hu) h).imp_right fun ht _ => ht
  | time u =>
    rw [dateTime] at h
    split at h
    · rename_i hcaller
      cases h
      refine ⟨hcaller.2, ?_⟩
      rintro (hwire | hless)
      · exact nomatch hcaller.1.symm.trans hwire
      · exact nomatch hless
    · exact nomatch h
  | _ => exact nomatch h

end Field

end MeshAgent
