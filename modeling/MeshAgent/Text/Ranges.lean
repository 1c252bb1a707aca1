/-!
# Tables of code points

A character property is a list of closed ranges of code points.
-/
namespace MeshAgent.Text

def inRanges (ranges : List (Nat × Nat)) (n : Nat) : Bool :=
  ranges.any fun r => r.1 ≤ n && n ≤ r.2

end MeshAgent.Text
