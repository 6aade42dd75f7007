/-!
# Depth

How deep the parts of a pattern lie in one another. Parts that stand in a row, or as the branches of
a choice, make one level more than the deepest of them, unless there is only one.
-/

set_option autoImplicit false

namespace WorkerSim.Pattern

/-- So many parts, the deepest of which is so deep. -/
structure Row where
  count : Nat := 0
  deepest : Nat := 0
  deriving DecidableEq, Repr

namespace Row

def add (r : Row) (depth : Nat) : Row := ⟨r.count + 1, max r.deepest depth⟩

def depth (r : Row) : Nat := if r.count ≤ 1 then r.deepest else r.deepest + 1

end Row

end WorkerSim.Pattern
