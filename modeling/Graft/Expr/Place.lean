import Graft.Expr.Path

/-!
# Places

Where identifiers and binders stand in an expression. A path leads to a node, and a quantifier has as
many places as it has binders. Places are ordered as a walk comes to them: the binders of a quantifier
in their order, all of them before its body.
-/

namespace Graft

/-- The path to a node and a position among the node's own identifiers. -/
structure Place where
  path : Path
  index : Nat

/-- Holds of a place and a later one in pre-order. -/
def Place.Before (p q : Place) : Prop := p.path < q.path ∨ p.path = q.path ∧ p.index < q.index

namespace Expr

/-- The identifiers of a node apart from its parts: the one that it consists of, or its binders. -/
def own : Expr → List Ident
  | .ident _ id => [id]
  | .quantified _ _ binders _ => binders
  | _ => []

/-- An identifier or a binder with the given handle stands at a place. -/
def OccursAt (expr : Expr) (handle : Handle) (place : Place) : Prop :=
  ∃ node id, expr.at? place.path = some node ∧ node.own[place.index]? = some id ∧
    id.decl = some handle

/-- A quantifier stands at the end of a path and has a binder with the given handle. -/
def BindsAt (expr : Expr) (π : Path) (handle : Handle) : Prop :=
  ∃ span quantifier binders body, expr.at? π = some (.quantified span quantifier binders body) ∧
    some handle ∈ binders.map Ident.decl

end Expr

end Graft
