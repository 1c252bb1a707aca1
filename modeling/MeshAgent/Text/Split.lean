/-!
# Cutting text at a mark

Cutting and joining are inverse to each other as long as no piece holds the mark.
-/
namespace MeshAgent.Text

/-- What stands before the first `mark`, and what after it if there is one. -/
def cutFirst (mark : Char) : List Char → List Char × Option (List Char)
  | [] => ([], none)
  | c :: r =>
    if c = mark then ([], some r)
    else ((c :: (cutFirst mark r).1), (cutFirst mark r).2)

/-- What stands before and after the last `mark`; `none` if there is none. -/
def cutLast (mark : Char) : List Char → Option (List Char × List Char)
  | [] => none
  | c :: r =>
    match cutLast mark r with
    | some (before, rest) => some (c :: before, rest)
    | none => if c = mark then some ([], r) else none

/-- All pieces between marks; a text without a mark is one piece. -/
def pieces (mark : Char) : List Char → List (List Char)
  | [] => [[]]
  | c :: r =>
    if c = mark then [] :: pieces mark r
    else
      match pieces mark r with
      | p :: ps => (c :: p) :: ps
      | [] => [[c]]

/-- The longest runs without characters of a class. -/
def tokens (p : Char → Bool) : List Char → List (List Char)
  | [] => []
  | c :: r =>
    if p c then tokens p r
    else
      match r with
      | [] => [[c]]
      | d :: _ =>
        if p d then [c] :: tokens p r
        else
          match tokens p r with
          | t :: ts => (c :: t) :: ts
          | [] => [[c]]

def join (mark : List Char) : List (List Char) → List Char
  | [] => []
  | [p] => p
  | p :: q :: ps => p ++ mark ++ join mark (q :: ps)

/-- Drops `word` in front, if it stands there. -/
def dropWord? : List Char → List Char → Option (List Char)
  | [], cs => some cs
  | w :: ws, c :: cs => if w = c then dropWord? ws cs else none
  | _ :: _, [] => none

/-- What follows the first `word` in a text; `none` if it does not occur. -/
def after? (word : List Char) : List Char → Option (List Char)
  | [] => dropWord? word []
  | c :: r =>
    match dropWord? word (c :: r) with
    | some rest => some rest
    | none => after? word r

theorem cutFirst_of_not_mem {mark : Char} {cs : List Char} (h : mark ∉ cs) :
    cutFirst mark cs = (cs, none) := by
  induction cs with
  | nil => rfl
  | cons c r ih =>
    simp only [List.mem_cons, not_or] at h
    simp [cutFirst, ih h.2, Ne.symm h.1]

theorem cutFirst_append {mark : Char} {a : List Char} (h : mark ∉ a) (b : List Char) :
    cutFirst mark (a ++ mark :: b) = (a, some b) := by
  induction a with
  | nil => simp [cutFirst]
  | cons c r ih =>
    simp only [List.mem_cons, not_or] at h
    simp [cutFirst, ih h.2, Ne.symm h.1]

theorem cutLast_of_not_mem {mark : Char} {cs : List Char} (h : mark ∉ cs) :
    cutLast mark cs = none := by
  induction cs with
  | nil => rfl
  | cons c r ih =>
    simp only [List.mem_cons, not_or] at h
    simp [cutLast, ih h.2, Ne.symm h.1]

theorem cutLast_append {mark : Char} (a : List Char) {b : List Char} (h : mark ∉ b) :
    cutLast mark (a ++ mark :: b) = some (a, b) := by
  induction a with
  | nil => simp [cutLast, cutLast_of_not_mem h]
  | cons c r ih => simp [cutLast, ih]

end MeshAgent.Text
