import MeshAgent.Bytes

/-!
# Random bytes

Random bytes come from a source that is given once and for all. Every draw takes bytes that no other
draw takes, so that what depends on chance is a function of the source.
-/
namespace MeshAgent

structure Entropy where
  /-- The byte at a position of a draw. -/
  source : Nat → Nat → UInt8
  /-- Number of draws so far. -/
  drawn : Nat := 0

namespace Entropy

/-- `n` fresh bytes. -/
def draw (e : Entropy) (n : Nat) : Bytes × Entropy :=
  ((List.range n).map (e.source e.drawn), { e with drawn := e.drawn + 1 })

@[simp] theorem length_draw (e : Entropy) (n : Nat) : (e.draw n).1.length = n := by simp [draw]

/-- A source that repeats a list of bytes, shifted from draw to draw. -/
def ofList (bs : List UInt8) : Entropy :=
  { source := fun draw i =>
      UInt8.ofNat (31 * draw + i) + ((bs.toArray[(i + draw) % bs.length]?).getD 0) }

end Entropy

end MeshAgent
