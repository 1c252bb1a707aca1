import MeshAgent.Proofs.Yaml.Mapping

/-!
# Texts without room for an entry

The shortest record is a pair of braces. A text of one character is at most one token, so no record is
read of it.
-/
namespace MeshAgent.Yaml

variable {x : Char} {cs : List Char} {tag text : String} {fields : List (String × Datum)}

/-! ## Values of scalars -/

namespace Scalar

/-- What is made of a value is no record if it is none of any value. -/
lemma map_ne_record {α : Type} {f : α → Datum} (hf : ∀ a, f a ≠ .record fields)
    (r : Except Problem α) : f <$> r ≠ .ok (.record fields) := by
  intro h
  cases r with
  | error p => cases h
  | ok a => exact hf a (Except.ok.inj h)

lemma time_ne_record : time text ≠ .ok (.record fields) := by
  intro h
  rw [time] at h
  split at h
  · cases h
  · split at h <;> cases h

lemma value_ne_record : value tag text ≠ .ok (.record fields) := by
  intro h
  rw [value] at h
  split_ifs at h
  · cases h
  · cases h
  · exact map_ne_record (fun _ heq => by cases heq) _ h
  · exact map_ne_record (fun _ heq => by cases heq) _ h
  · exact map_ne_record (fun _ heq => by cases heq) _ h
  · exact map_ne_record (fun _ heq => by cases heq) _ h
  · exact time_ne_record h

end Scalar

namespace Node

lemma value_scalar_ne_record : (scalar tag text).value.toExcept ≠ .ok (.record fields) := by
  intro h
  rw [value] at h
  split_ifs at h
  · cases h
  · cases hvalue : Scalar.value tag text with
    | error p =>
      rw [hvalue] at h
      cases h
    | ok d =>
      rw [hvalue] at h
      exact Scalar.value_ne_record (hvalue.trans h)

lemma single?_scalar :
    single? [.scalar text true] = some (some (.scalar (implicitTag text) text)) := by
  have hread := @read?_scalar { tokens := [.scalar text true], handles := defaultHandles } text true []
    rfl true false 15
  simp [single?, document?, hread, scalarTag, dropDocumentEnds]

end Node

/-! ## Texts of one character -/

/-- Characters that are no word of their own. -/
def signs : List Char :=
  [' ', '\t', '\n', '\x85', '\u2028', '\u2029', '\uFEFF', '#', ',', '[', ']', '{', '}', '&', '*', '!',
   '|', '>', '\'', '"', '%', '@', '\x60', '?', ':', '-']

def isRecord : Datum → Bool
  | .record _ => true
  | _ => false

/-- An empty text and the signs are tried one by one. -/
lemma load_ne_record_of_mem (hcs : cs ∈ [] :: signs.map fun c => [c]) :
    load cs ≠ .ok (.record fields) := by
  have hall : (([] :: signs.map fun c => [c]).all fun cs => !(load cs).toOption.any isRecord) =
      true := by decide +kernel
  intro h
  have hcs := List.all_eq_true.mp hall cs hcs
  rw [h] at hcs
  cases hcs

lemma startsWord_of_not_sign (hx : x ∉ signs) :
    isGap x = false ∧ x ≠ '\uFEFF' ∧ ScalarStyle.startsWithIndicator [x] = false := by
  have hne : ∀ c ∈ signs, x ≠ c := fun c hc heq => hx (heq ▸ hc)
  refine ⟨?_, hne _ (by simp [signs]), ?_⟩
  · simp (disch := decide) [isGap, isBreak, hne]
  · simp (disch := decide) [ScalarStyle.startsWithIndicator, ScalarStyle.isLeadingIndicator, hne]

open Lexer in
/-- Any other character is a plain scalar, behind which the text ends. -/
lemma tokens_word (hgap : isGap x = false) (hmark : x ≠ '\uFEFF')
    (hstart : ScalarStyle.startsWithIndicator [x] = false) (hallowed : isAllowed x = true) :
    tokens [x] = .ok [.scalar (String.ofList [x]) true] := by
  let start : Lexer := { cursor := { rest := [x] } }
  let behind : Lexer :=
    { cursor := { rest := [], index := 1, line := 0, column := 1 }
      tokens := [.scalar (String.ofList [x]) true], keyAllowed := false
      keyStarts := [{ depth := 0, position := 0, required := false, index := 0, line := 0,
                      column := 0 }] }
  have hnext : start.cursor.next = behind.cursor := by
    simp [start, behind, Cursor.next, isBreak_of_isGap hgap, hmark]
  have hcolon : x ≠ ':' := by
    rintro rfl
    cases hstart
  have hhash : x ≠ '#' := by
    rintro rfl
    cases hstart
  have hwords : Plain.words false 0 2 start.cursor = ([x], false, behind.cursor) := by
    have hlength : Plain.wordLength false [x] = 1 := by simp [Plain.wordLength, hgap, hcolon]
    have hspaces : Plain.spaces behind.cursor = ([], false, behind.cursor) := rfl
    simp [Plain.words, Cursor.sees, start, hlength, hhash, Cursor.skip, hnext, hspaces]
  have hplain : start.plain? = some behind := by
    rw [plain?, saveKeyStart?, if_pos rfl, dropKeyStart?]
    simp only [start] at hwords
    simp [start, behind, hwords, emit]
  have htoken : start.token x = .ok behind := by
    rw [token_plain rfl rfl hgap hstart fun _ => by simp [ScalarStyle.startsWithMark], hplain]
    rfl
  have hrun : run 3 start = run 2 behind :=
    run_token rfl hgap hhash (List.forall_mem_nil _) (by simp [start]) htoken 2
  rw [tokens]
  simp only [List.all_cons, hallowed, List.all_nil, Bool.and_true, if_true, List.head?_cons,
    Option.some.injEq, hmark, if_false, List.length_singleton]
  exact hrun

/-- A text of one character or none is no record. -/
theorem load_ne_record (hcs : cs.length ≤ 1) : load cs ≠ .ok (.record fields) := by
  rcases cs with _ | ⟨x, _ | ⟨y, cs⟩⟩
  · exact load_ne_record_of_mem List.mem_cons_self
  · by_cases hsign : x ∈ signs
    · exact load_ne_record_of_mem (List.mem_cons_of_mem _ (List.mem_map_of_mem hsign))
    · obtain ⟨hgap, hmark, hstart⟩ := startsWord_of_not_sign hsign
      intro h
      rw [load] at h
      cases hallowed : isAllowed x with
      | false =>
        have hrefused : tokens [x] = .error .refused := by simp [tokens, hallowed]
        rw [hrefused] at h
        cases h
      | true =>
        rw [tokens_word hgap hmark hstart hallowed] at h
        simp only [bind, Except.bind, Node.single?_scalar, orRefused_some] at h
        exact Node.value_scalar_ne_record h
  · exact absurd hcs (by simp)

end MeshAgent.Yaml
