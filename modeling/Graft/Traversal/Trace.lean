import Graft.Expr.Text
import Graft.Traversal.Basic

/-!
# Traces

The record of a walk: one event for every node it stops by at. A kind of node may be *stopped*: its
event is still recorded, but its parts are not walked. The visits of a walk that nothing stops tell
for each node also which nodes' parts it was met among.
-/

namespace Graft

/-- The one detail that a trace tells about a node: a word, or for quantifiers a number. -/
inductive Detail where
  | word (value : String)
  | count (value : Nat)
  deriving DecidableEq, Inhabited

/-- A node that a walk stopped by at, told by its kind and one detail. -/
structure TraceEvent where
  hook : Hook
  detail : Detail
  deriving DecidableEq, Inhabited

/-- What a trace tells about a node. -/
def Node.detail : Node → Detail
  | .expr whole => .word whole.kind.text
  | .ident id => .word id.name
  | .literal value => .word value.text
  | .apply symbol _ => .word symbol.name
  | .quantified _ binders _ => .count binders.length
  | .target whole => .word whole.root.name
  | .command whole => .word whole.action.keyword

/-- The event of a node. -/
def Node.event (node : Node) : TraceEvent := ⟨node.hook, node.detail⟩

/-- Records every event and walks the parts of all nodes but those of stopped kinds. -/
def Visitor.tracer (stopped : List Hook) : Visitor (List TraceEvent) where
  enter node events := events ++ [node.event]
  descends node := node.hook ∉ stopped

/-- Collects literals. -/
def Visitor.literalCollector : Visitor (List Literal) where
  enter
    | .literal value, literals => literals ++ [value]
    | _, literals => literals

namespace Fragment

/-- The events of a walk over a fragment. -/
def trace (fragment : Fragment) (stopped : List Hook) : List TraceEvent :=
  (Visitor.tracer stopped).fragment fragment []

/-- Every literal of a fragment, from left to right. -/
def literals (fragment : Fragment) : List Literal :=
  Visitor.literalCollector.fragment fragment []

end Fragment

/-! ## Visits -/

/-- A node that a walk stops by at, and the nodes whose parts are being walked at that time, the
innermost first. -/
structure Visit where
  node : Node
  around : List Node
  deriving DecidableEq, Inhabited

/-- Tells whether a visit falls into the walk of a node of one of the given kinds. -/
def Visit.isInside (visit : Visit) (hooks : List Hook) : Bool :=
  visit.around.any fun node => node.hook ∈ hooks

/-- The nodes whose parts are being walked, and the visits so far. -/
structure Tour where
  around : List Node
  visits : List Visit

/-- Walks everything and notes every visit. -/
def Visitor.surveyor : Visitor Tour where
  enter node tour := ⟨node :: tour.around, tour.visits ++ [⟨node, tour.around⟩]⟩
  leave _ before reached := ⟨before.around, reached.visits⟩

/-- The visits of a walk over a fragment. -/
def Fragment.visits (fragment : Fragment) : List Visit :=
  (Visitor.surveyor.fragment fragment ⟨[], []⟩).visits

end Graft
