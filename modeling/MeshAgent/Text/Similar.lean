/-!
# Similar texts

Two texts are compared by their longest common part, and then by what is left on both sides of it.
The similarity is the share of characters that are matched in this way.
-/
namespace MeshAgent.Text

def commonPrefix : List Char → List Char → Nat
  | a :: as, b :: bs => if a = b then commonPrefix as bs + 1 else 0
  | _, _ => 0

/-- A part that two texts have in common. -/
structure Match where
  left : Nat
  right : Nat
  length : Nat
deriving DecidableEq, Repr

/-- The longest common part; of several ones the first. -/
def longestMatch (a b : List Char) : Match :=
  (List.range a.length).foldl (fun best i =>
    (List.range b.length).foldl (fun best j =>
      let n := commonPrefix (a.drop i) (b.drop j)
      if best.length < n then ⟨i, j, n⟩ else best) best) ⟨0, 0, 0⟩

/-- Number of matched characters, with at most `fuel` parts one inside the other. -/
def matchedWithin : Nat → List Char → List Char → Nat
  | 0, _, _ => 0
  | fuel + 1, a, b =>
    let m := longestMatch a b
    if m.length = 0 then 0
    else
      matchedWithin fuel (a.take m.left) (b.take m.right) + m.length
        + matchedWithin fuel (a.drop (m.left + m.length)) (b.drop (m.right + m.length))

def matched (a b : List Char) : Nat := matchedWithin a.length a b

/-- Whether three fifths of the characters are matched. -/
def similar (a b : List Char) : Bool :=
  3 * (a.length + b.length) ≤ 10 * matched a b

/-- Up to three of the texts that are similar to a text, the most similar first. -/
def mostSimilar (a : String) (texts : List String) : List String :=
  let close := texts.filter fun t => similar t.toList a.toList
  let share (t : String) : Nat × Nat := (matched t.toList a.toList, t.length + a.length)
  let sorted := close.mergeSort fun s t => (share t).1 * (share s).2 ≤ (share s).1 * (share t).2
  sorted.take 3

end MeshAgent.Text
