import MeshAgent.Terminal.EmojiTable
import MeshAgent.Text.Blank
import MeshAgent.Text.Lower
import MeshAgent.Text.Split

/-!
# Pictures by name

A name of a picture between colons stands for the picture. After the name one may ask for the
picture as an emoji or as text. Anything else between colons stays as it is.
-/
namespace MeshAgent.Emoji

/-- The picture with a name, if the words of a table, names and pictures in turn, have it. -/
def findIn? (name : List Char) : List (List Char) → Option (List Char)
  | n :: picture :: rest => if n = name then some picture else findIn? name rest
  | _ => none

def find? (name : List Char) : Option (List Char) :=
  findIn? name (Text.tokens Text.isBlank table.toList)

/-- What may follow a name, and the mark after the picture that it asks for. -/
def variants : List (List Char × List Char) :=
  [([], []), ("-emoji".toList, ['\uFE0F']), ("-text".toList, ['\uFE0E'])]

/-- The part of a text up to the next closing colon: the name, the variant and the rest. A name has
no blanks. -/
def name? : List Char → Option (List Char × (List Char × List Char) × List Char)
  | [] => none
  | c :: r =>
    match variants.findSome? fun v => (Text.dropWord? (v.1 ++ [':']) (c :: r)).map (v, ·) with
    | some (v, rest) => some ([], v, rest)
    | none =>
      if Text.isBlank c then none
      else (name? r).map fun (n, v, rest) => (c :: n, v, rest)

theorem length_name? {cs n rest : List Char} {v : List Char × List Char}
    (h : name? cs = some (n, v, rest)) : rest.length < cs.length := by
  have drop : ∀ {w cs rest : List Char}, Text.dropWord? w cs = some rest →
      cs.length = w.length + rest.length := by
    intro w
    induction w with
    | nil => intro cs rest h; simp [Text.dropWord?] at h; simp [h]
    | cons a w ih =>
      intro cs rest h
      cases cs with
      | nil => simp [Text.dropWord?] at h
      | cons c cs =>
        by_cases hc : a = c
        · simp [Text.dropWord?, hc] at h
          have := ih h
          simp only [List.length_cons]; omega
        · simp [Text.dropWord?, hc] at h
  induction cs generalizing n v rest with
  | nil => simp [name?] at h
  | cons c r ih =>
    rw [name?] at h
    split at h
    · rename_i v' rest' hv
      obtain ⟨w, _, hw⟩ := List.exists_of_findSome?_eq_some hv
      obtain ⟨t, ht, he⟩ := Option.map_eq_some_iff.1 hw
      simp only [Prod.mk.injEq] at he
      simp only [Option.some.injEq, Prod.mk.injEq] at h
      have := drop ht
      simp only [List.length_append, List.length_cons, List.length_nil] at this
      have hr : rest = t := by rw [← h.2.2, ← he.2]
      simp only [List.length_cons, hr]
      omega
    · split at h
      · simp at h
      · obtain ⟨⟨n', v', rest'⟩, hm, he⟩ := Option.map_eq_some_iff.1 h
        simp only [Prod.mk.injEq] at he
        have := ih hm
        simp only [List.length_cons, ← he.2.2]
        omega

/-- Puts pictures in the place of their names. -/
def replaceBy (picture? : List Char → Option (List Char)) : List Char → List Char
  | [] => []
  | c :: r =>
    if c = ':' then
      match h : name? r with
      | some (n, v, rest) =>
        have := length_name? h
        match picture? (Text.lowerFrom [] n) with
        | some picture => picture ++ v.2 ++ replaceBy picture? rest
        | none => ':' :: n ++ v.1 ++ ':' :: replaceBy picture? rest
      | none => ':' :: replaceBy picture? r
    else c :: replaceBy picture? r
termination_by cs => cs.length

def replace (cs : List Char) : List Char := replaceBy find? cs

end MeshAgent.Emoji
