/-!
# Source spans

A span is a start offset and a length. Nodes made by tools rather than read from text carry the
empty span at offset zero.
-/

namespace Graft

/-- A stretch of source text: where it starts and how long it is. -/
structure Span where
  start : Nat
  length : Nat
  deriving DecidableEq, Inhabited

namespace Span

/-- The span of a node that no source text stands behind. -/
def synthetic : Span := ⟨0, 0⟩

/-- Raised when a span is asked to end before it starts. -/
structure Reversed where
  start : Nat
  stop : Nat
  deriving DecidableEq

/-- Names the condition that failed. -/
def Reversed.message (_ : Reversed) : String :=
  "assertion failed: end >= start"

/-- The span from `start` up to `stop`, which must not lie before it. -/
def between (start stop : Nat) : Except Reversed Span :=
  if start ≤ stop then .ok ⟨start, stop - start⟩ else .error ⟨start, stop⟩

end Span

end Graft
