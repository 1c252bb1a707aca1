import MeshAgent.Proofs.Endpoint.Spelled
import MeshAgent.Proofs.Wire.Fields
import MeshAgent.Wire.Refresh

/-!
# The gate for refresh requests

A request passes when its key, if it has one, is of the size of a key and its endpoint, if it has one,
is spelled as an endpoint. The key is looked at first. One failure is not an agent error: the digits
of the port are read before their value is compared, and too many of them are not read at all.
-/
namespace MeshAgent.RefreshRequest

variable {r : RefreshRequest}

/-- No key, or one of the right size. -/
def KeyFits (r : RefreshRequest) : Prop := r.key = [] ∨ r.key.length = Key.size

def keyRefusal (r : RefreshRequest) : Failure :=
  .agent (.validation (.keyLength r.key.length) .validateRefresh "key")

/-- What is wrong with the endpoint, and the error of the splitter that it was raised from. -/
def endpointRefusal (r : RefreshRequest) (problem : EndpointProblem) : Failure :=
  let outer : AgentError :=
    .validation (.requestEndpoint (.endpoint problem r.endpoint)) .validateRefresh "endpoint"
  .agent (outer.raisedFrom (Endpoint.refusal problem r.endpoint))

lemma keyRefusal_ne_endpointRefusal (problem : EndpointProblem) :
    r.keyRefusal ≠ r.endpointRefusal problem := by
  simp [keyRefusal, endpointRefusal, AgentError.validation, AgentError.raisedFrom]

lemma check_of_not_keyFits (h : ¬ r.KeyFits) : r.check = .error r.keyRefusal := by
  rw [KeyFits, not_or] at h
  rw [check, if_pos h.1, Key.check, if_neg h.2]
  rfl

/-- Behind a key that fits, the answer of the splitter decides. -/
lemma check_of_keyFits (h : r.KeyFits) :
    r.check =
      if r.endpoint = "" then .ok ()
      else match Endpoint.split r.endpoint with
        | .ok _ => .ok ()
        | .error (.agent e) =>
          let outer : AgentError :=
            .validation (.requestEndpoint e.reason) .validateRefresh "endpoint"
          .error (.agent (outer.raisedFrom e))
        | .error other => .error other := by
  rw [check]
  by_cases hgiven : r.key = []
  · rw [if_neg (not_not_intro hgiven)]
    exact ite_not ..
  · rw [if_pos hgiven, Key.check_eq_ok.mpr (h.resolve_left hgiven)]
    exact ite_not ..

/-- What the key and the splitter say, and the answer of the check. -/
inductive Fares (r : RefreshRequest) : Except Failure Unit → Prop
  | badKey : ¬ r.KeyFits → Fares r (.error r.keyRefusal)
  | noEndpoint : r.KeyFits → r.endpoint = "" → Fares r (.ok ())
  | endpoint (e : Endpoint) : r.KeyFits → r.endpoint ≠ "" → Endpoint.split r.endpoint = .ok e →
      Fares r (.ok ())
  | badEndpoint (problem : EndpointProblem) : r.KeyFits → r.endpoint ≠ "" →
      Endpoint.split r.endpoint = .error (.agent (Endpoint.refusal problem r.endpoint)) →
      Fares r (.error (r.endpointRefusal problem))
  | tooLong (count : Nat) : r.KeyFits → r.endpoint ≠ "" →
      Endpoint.split r.endpoint = .error (.tooManyDigits count) →
      Fares r (.error (.tooManyDigits count))

theorem fares (r : RefreshRequest) : r.Fares r.check := by
  by_cases hkey : r.KeyFits
  · rw [check_of_keyFits hkey]
    by_cases hgiven : r.endpoint = ""
    · rw [if_pos hgiven]
      exact .noEndpoint hkey hgiven
    · rw [if_neg hgiven]
      rcases Endpoint.split_cases r.endpoint with ⟨e, heq⟩ | ⟨problem, heq⟩ | ⟨count, heq⟩
      · rw [heq]
        exact .endpoint e hkey hgiven heq
      · rw [heq]
        exact .badEndpoint problem hkey hgiven heq
      · rw [heq]
        exact .tooLong count hkey hgiven heq
  · rw [check_of_not_keyFits hkey]
    exact .badKey hkey

lemma check_eq_keyRefusal_iff : r.check = .error r.keyRefusal ↔ ¬ r.KeyFits := by
  have hfares := r.fares
  generalize r.check = answer at hfares
  cases hfares with
  | badKey hkey => simp [hkey]
  | noEndpoint hkey => simp [hkey]
  | endpoint e hkey => simp [hkey]
  | badEndpoint problem hkey => simp [hkey, (keyRefusal_ne_endpointRefusal problem).symm]
  | tooLong count hkey => simp [hkey, keyRefusal]

lemma check_eq_endpointRefusal_iff :
    (∃ problem, r.check = .error (r.endpointRefusal problem)) ↔ r.KeyFits ∧ r.endpoint ≠ "" ∧
      ∃ problem, Endpoint.split r.endpoint =
        .error (.agent (Endpoint.refusal problem r.endpoint)) := by
  have hfares := r.fares
  generalize r.check = answer at hfares
  cases hfares with
  | badKey hkey => simp [hkey, keyRefusal_ne_endpointRefusal]
  | noEndpoint hkey hgiven => simp [hgiven]
  | endpoint e hkey hgiven hsplit => simp [hsplit]
  | badEndpoint problem hkey hgiven hsplit =>
    exact iff_of_true ⟨problem, rfl⟩ ⟨hkey, hgiven, problem, hsplit⟩
  | tooLong count hkey hgiven hsplit => simp [hsplit, endpointRefusal]

lemma check_eq_tooManyDigits_iff {count : Nat} :
    r.check = .error (.tooManyDigits count) ↔
      r.KeyFits ∧ Endpoint.split r.endpoint = .error (.tooManyDigits count) := by
  have hfares := r.fares
  generalize r.check = answer at hfares
  cases hfares with
  | badKey hkey => simp [hkey, keyRefusal]
  | noEndpoint hkey hgiven =>
    rw [hgiven]
    simp [Endpoint.split, Endpoint.cut, Text.cutLast]
  | endpoint e hkey hgiven hsplit => simp [hsplit]
  | badEndpoint problem hkey hgiven hsplit => simp [hsplit, endpointRefusal]
  | tooLong count hkey hgiven hsplit => simp [hkey, hsplit]

lemma check_eq_ok_iff :
    r.check = .ok () ↔
      r.KeyFits ∧ (r.endpoint = "" ∨ ∃ e, Endpoint.split r.endpoint = .ok e) := by
  have hfares := r.fares
  generalize r.check = answer at hfares
  cases hfares with
  | badKey hkey => simp [hkey]
  | noEndpoint hkey hgiven => simp [hkey, hgiven]
  | endpoint e hkey hgiven hsplit => simp [hkey, hsplit]
  | badEndpoint problem hkey hgiven hsplit => simp [hgiven, hsplit]
  | tooLong count hkey hgiven hsplit => simp [hgiven, hsplit]

/-- How a request fares at the gate, by its fields alone. -/
structure Gated (r : RefreshRequest) : Prop where
  key : r.check = .error r.keyRefusal ↔ r.key ≠ [] ∧ r.key.length ≠ Key.size
  endpoint : (∃ problem, r.check = .error (r.endpointRefusal problem)) ↔
    r.KeyFits ∧ r.endpoint ≠ "" ∧ (∀ e : Endpoint, ¬ e.Spells r.endpoint) ∧
      ∀ count, ¬ Endpoint.Overlong r.endpoint count
  tooLong : ∀ count, r.check = .error (.tooManyDigits count) ↔
    r.KeyFits ∧ Endpoint.Overlong r.endpoint count
  passes : r.check = .ok () ↔
    r.KeyFits ∧ (r.endpoint = "" ∨
      (∃ e : Endpoint, e.Spells r.endpoint) ∧ ∀ count, ¬ Endpoint.Overlong r.endpoint count)
  /-- Nothing else is raised. -/
  closed : ∀ failure, r.check = .error failure → failure = r.keyRefusal ∨
    (∃ problem, failure = r.endpointRefusal problem) ∨ ∃ count, failure = .tooManyDigits count

lemma gated (r : RefreshRequest) : r.Gated where
  key := by rw [check_eq_keyRefusal_iff, KeyFits, not_or]
  endpoint := by rw [check_eq_endpointRefusal_iff, Endpoint.split_eq_refusal_iff]
  tooLong count := by rw [check_eq_tooManyDigits_iff, Endpoint.split_eq_tooManyDigits_iff]
  passes := by simp only [check_eq_ok_iff, Endpoint.split_eq_ok_iff, exists_and_right]
  closed failure hfailure := by
    have hfares := hfailure ▸ r.fares
    cases hfares with
    | badKey => exact .inl rfl
    | badEndpoint problem => exact .inr (.inl ⟨problem, rfl⟩)
    | tooLong count => exact .inr (.inr ⟨count, rfl⟩)

/-- The request with the fields that are given. -/
def ofGiven (name : Option String) (key : Option Bytes) (endpoint : Option String) : RefreshRequest :=
  ⟨name.getD "", key.getD [], endpoint.getD ""⟩

/-- The same fields as they come from a caller. -/
def arguments (name : Option String) (key : Option Bytes) (endpoint : Option String) : Field.Fields :=
  [("name", name.elim .null .text), ("key", key.elim .null .bytes),
    ("endpoint", endpoint.elim .null .text)]

/-- What is missing or empty is not handed on. -/
lemma given_arguments (name : Option String) (key : Option Bytes) (endpoint : Option String) :
    (arguments name key endpoint).filter (fun (_, d) => !d.isEmpty) =
      (if name.getD "" = "" then [] else [("name", .text (name.getD ""))])
        ++ (if key.getD [] = [] then [] else [("key", .bytes (key.getD []))])
        ++ (if endpoint.getD "" = "" then [] else [("endpoint", .text (endpoint.getD ""))]) := by
  have htext : ∀ (n : String) (o : Option String),
      [(n, o.elim Datum.null .text)].filter (fun (_, d) => !d.isEmpty) =
        if o.getD "" = "" then [] else [(n, .text (o.getD ""))] := by
    rintro n (_ | s)
    · rfl
    · by_cases hs : s = "" <;> simp [Datum.isEmpty, hs]
  have hbytes : ∀ (n : String) (o : Option Bytes),
      [(n, o.elim Datum.null .bytes)].filter (fun (_, d) => !d.isEmpty) =
        if o.getD [] = [] then [] else [(n, .bytes (o.getD []))] := by
    rintro n (_ | b)
    · rfl
    · by_cases hb : b = [] <;> simp [Datum.isEmpty, hb]
  rw [arguments, ← htext "name" name, ← hbytes "key" key, ← htext "endpoint" endpoint,
    ← List.filter_append, ← List.filter_append]
  rfl

lemma ofFields_given (name : Option String) (key : Option Bytes) (endpoint : Option String) :
    Message.ofFields .caller ((arguments name key endpoint).filter fun (_, d) => !d.isEmpty) =
      .ok (ofGiven name key endpoint) := by
  rw [given_arguments, ofGiven]
  by_cases hname : name.getD "" = "" <;> by_cases hkey : key.getD [] = [] <;>
    by_cases hend : endpoint.getD "" = "" <;>
    simp [Message.ofFields, Field.optional, Field.find?, Datum.find?, Field.base64, hname, hkey, hend]

lemma make_eq (name : Option String) (key : Option Bytes) (endpoint : Option String) :
    make name key endpoint =
      (ofGiven name key endpoint).check.map fun _ => ofGiven name key endpoint := by
  rw [make, ← ofGiven]
  cases (ofGiven name key endpoint).check <;> rfl

lemma ofArguments_eq (name : Option String) (key : Option Bytes) (endpoint : Option String) :
    ofArguments (arguments name key endpoint) = make name key endpoint := by
  rw [make, ofArguments, ofFields_given]
  rfl

/-- A request is made of fields exactly when it passes the gate, from a caller's values as well. -/
theorem gate (name : Option String) (key : Option Bytes) (endpoint : Option String) :
    (ofGiven name key endpoint).Gated ∧
    make name key endpoint =
      ((ofGiven name key endpoint).check.map fun _ => ofGiven name key endpoint) ∧
    ofArguments (arguments name key endpoint) = make name key endpoint :=
  ⟨gated _, make_eq name key endpoint, ofArguments_eq name key endpoint⟩

/-- The port zero of a host, written with several zeros. -/
def zeroPort (count : Nat) : String := String.ofList (['h'] ++ ':' :: List.replicate count '0')

lemma numbered_zeroPort (n : Nat) :
    Endpoint.Numbered (zeroPort (n + 1)) ['h'] (List.replicate (n + 1) '0') := by
  constructor
  · rw [zeroPort, String.toList_ofList]
    refine .bare ?_ ?_ ?_ <;> decide
  · rw [List.replicate_succ']
    exact Decimal.isNumeral_zeros_append n rfl

lemma spells_zeroPort (n : Nat) : Endpoint.Spells ⟨"h", 0⟩ (zeroPort (n + 1)) := by
  rw [(numbered_zeroPort n).spells_iff, Decimal.value_replicate_zero]
  exact ⟨rfl, Nat.zero_le _⟩

lemma make_zeroPort {n : Nat} (h : Decimal.digitLimit < n + 1) :
    make none none (some (zeroPort (n + 1))) = .error (.tooManyDigits (n + 1)) := by
  have hlong : Endpoint.Overlong (zeroPort (n + 1)) (n + 1) :=
    ⟨_, _, numbered_zeroPort n, List.length_replicate, h⟩
  have hcheck : (ofGiven none none (some (zeroPort (n + 1)))).check =
      .error (.tooManyDigits (n + 1)) :=
    check_eq_tooManyDigits_iff.mpr ⟨.inl rfl, Endpoint.split_eq_tooManyDigits_iff.mpr hlong⟩
  rw [make_eq, hcheck]
  rfl

/-- The port is in range and the request fails all the same. -/
theorem endpoint_of_many_zeros_is_not_read :
    Endpoint.Spells ⟨"h", 0⟩ (zeroPort (4300 + 1)) ∧
    make none none (some (zeroPort (4300 + 1))) = .error (.tooManyDigits (4300 + 1)) :=
  ⟨spells_zeroPort 4300, make_zeroPort (by decide)⟩

end MeshAgent.RefreshRequest
