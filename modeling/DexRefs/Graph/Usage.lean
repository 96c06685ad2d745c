import DexRefs.Graph.Basic

/-!
The classes of a reference graph by how many members use them: most used first, and among equally
used ones the one with the smaller descriptor first.
-/

set_option autoImplicit false

namespace DexRefs

/-- The first `n` elements, or, for a negative `n`, all but the last `-n`. -/
def cutAt {α : Type} (n : Int) (xs : List α) : List α :=
  if n < 0 then xs.take (xs.length - n.natAbs) else xs.take n.toNat

def ranksBefore (p q : String × Nat) : Bool :=
  q.2 < p.2 || (p.2 == q.2 && decide (p.1 ≤ q.1))

def Graph.uses (g : Graph) (id : String) : Nat :=
  g.edges.countP fun e => e.1.2 = id ∧ e.2 = .uses

def Graph.ranking (g : Graph) : List (String × Nat) :=
  ((g.nodes.filter (·.2.kind = .cls)).filterMap fun p =>
    if g.uses p.1 = 0 then none else some (p.1, g.uses p.1)).mergeSort ranksBefore

def Graph.mostUsed (g : Graph) (n : Int) : List (String × Nat) :=
  cutAt n g.ranking

end DexRefs
