/-!
# Decimal digits

Natural numbers and their decimal texts. Reading drops leading zeros; writing never makes one, so
that a number has one written form.
-/
namespace MeshAgent.Decimal

def digitChar (d : Nat) : Char := Char.ofNat (48 + d % 10)

/-- ASCII digits only: other digits of Unicode never stand for a number here. -/
def isDigit (c : Char) : Bool := 48 ≤ c.toNat && c.toNat ≤ 57

def digitValue (c : Char) : Nat := c.toNat - 48

/-- The last digit is put in front of what has been written already. -/
def writeAux (n : Nat) (acc : List Char) : List Char :=
  if n < 10 then digitChar n :: acc else writeAux (n / 10) (digitChar n :: acc)
termination_by n

def write (n : Nat) : List Char := writeAux n []

/-- Value of a run of digits, most significant first. -/
def value (ds : List Char) : Nat := ds.foldl (fun n c => 10 * n + digitValue c) 0

/-- A non-empty run of digits and nothing else. -/
def isNumeral (cs : List Char) : Bool := !cs.isEmpty && cs.all isDigit

/-- Two digits, with a leading zero if need be. -/
def pad2 (n : Nat) : List Char := [digitChar (n / 10), digitChar n]

/-- A text of exactly `width` digits, the high ones dropped. -/
def padTo : Nat → Nat → List Char
  | 0, _ => []
  | width + 1, n => padTo width (n / 10) ++ [digitChar n]

/-- The most digits that are read as one number. -/
def digitLimit : Nat := 4300

def writeInt (n : Int) : List Char :=
  if n < 0 then '-' :: write n.natAbs else write n.natAbs

theorem toNat_digitChar (d : Nat) : (digitChar d).toNat = 48 + d % 10 := by
  have h : (48 + d % 10).isValidChar := Or.inl (by omega)
  rw [digitChar, Char.ofNat, dif_pos h]
  rfl

theorem digitValue_digitChar (d : Nat) : digitValue (digitChar d) = d % 10 := by
  simp [digitValue, toNat_digitChar]

theorem isDigit_digitChar (d : Nat) : isDigit (digitChar d) = true := by
  simp [isDigit, toNat_digitChar]; omega

theorem value_append (a b : List Char) :
    value (a ++ b) = value a * Nat.pow 10 b.length + value b := by
  have key : ∀ (b : List Char) (s : Nat),
      b.foldl (fun n c => 10 * n + digitValue c) s
        = s * Nat.pow 10 b.length + b.foldl (fun n c => 10 * n + digitValue c) 0 := by
    intro b
    induction b with
    | nil => intro s; simp
    | cons c r ih =>
      intro s
      simp only [List.foldl_cons, List.length_cons]
      rw [ih (10 * s + digitValue c), ih (10 * 0 + digitValue c)]
      simp only [Nat.mul_zero, Nat.zero_add, Nat.add_mul]
      have h : s * Nat.pow 10 (r.length + 1) = 10 * s * Nat.pow 10 r.length := by
        rw [show Nat.pow 10 (r.length + 1) = Nat.pow 10 r.length * 10 from rfl, Nat.mul_comm 10 s,
          Nat.mul_assoc, Nat.mul_comm 10]
      omega
  simpa [value] using key b (a.foldl (fun n c => 10 * n + digitValue c) 0)

theorem writeAux_eq (n : Nat) (acc : List Char) : writeAux n acc = write n ++ acc := by
  induction n using Nat.strongRecOn generalizing acc with
  | _ n ih =>
    unfold write
    by_cases h : n < 10
    · rw [writeAux, writeAux.eq_def n []]; simp [h]
    · rw [writeAux]
      conv => rhs; rw [writeAux]
      simp only [h, if_false]
      rw [ih (n / 10) (by omega), ih (n / 10) (by omega) [digitChar n]]
      simp

theorem write_of_lt {n : Nat} (h : n < 10) : write n = [digitChar n] := by
  unfold write; rw [writeAux]; simp [h]

theorem write_of_ge {n : Nat} (h : 10 ≤ n) : write n = write (n / 10) ++ [digitChar n] := by
  unfold write
  rw [writeAux]
  simp only [show ¬ n < 10 by omega, if_false]
  rw [writeAux_eq]; rfl

/-- Reading a written number gives it back. -/
theorem value_write (n : Nat) : value (write n) = n := by
  induction n using Nat.strongRecOn with
  | _ n ih =>
    by_cases h : n < 10
    · rw [write_of_lt h]
      simp [value, digitValue_digitChar]; omega
    · rw [write_of_ge (by omega), value_append, ih (n / 10) (by omega)]
      simp [value, digitValue_digitChar]; omega

theorem isNumeral_write (n : Nat) : isNumeral (write n) = true := by
  induction n using Nat.strongRecOn with
  | _ n ih =>
    by_cases h : n < 10
    · simp [write_of_lt h, isNumeral, isDigit_digitChar]
    · have := ih (n / 10) (by omega)
      simp only [isNumeral, Bool.and_eq_true] at this
      rw [write_of_ge (by omega)]
      simp [isNumeral, this.2, isDigit_digitChar]

end MeshAgent.Decimal
