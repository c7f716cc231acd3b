import Graft.Traversal.Basic
import Std.Data.ExtTreeSet

/-!
# Identifiers and free declarations

Identifier occurrences in the order of the walk, and the handles that an expression uses outside
every quantifier that binds them. The free handles are found with a stack of bound handles, which is
cut back to its former depth after each quantifier; `freeHandles` is the same set said part by part.
-/

namespace Graft

/-- Collects identifier occurrences. -/
def Visitor.identCollector : Visitor (List Ident) where
  enter
    | .ident id, ids => ids ++ [id]
    | _, ids => ids

/-- Every identifier occurrence of an expression, those under quantifiers included. -/
def Expr.identifiers (expr : Expr) : List Ident := Visitor.identCollector.expr expr []

/-- Every identifier occurrence of a target: the written variable, and those of the indices. -/
def Target.identifiers (target : Target) : List Ident := Visitor.identCollector.target target []

/-- Every identifier occurrence of a command, written variables included. -/
def Command.identifiers (command : Command) : List Ident :=
  Visitor.identCollector.command command []

/-- Every identifier occurrence of a fragment, written variables included. -/
def Fragment.identifiers (fragment : Fragment) : List Ident :=
  Visitor.identCollector.fragment fragment []

/-- Handles bound around the present node, the innermost first, and the free ones found so far. -/
structure FreeSearch where
  bound : List Handle
  free : Std.ExtTreeSet Handle

/-- Finds free handles. -/
def Visitor.freeFinder : Visitor FreeSearch where
  enter
    | .ident id, search =>
      match id.decl with
      | some handle =>
        if handle ∈ search.bound then search
        else { search with free := search.free.insert handle }
      | none => search
    | .quantified _ binders _, search =>
      { search with bound := (binders.filterMap Ident.decl).reverse ++ search.bound }
    | _, search => search
  leave
    | .quantified _ _ _, before, reached =>
      { reached with bound := reached.bound.drop (reached.bound.length - before.bound.length) }
    | _, _, reached => reached

namespace Expr

/-- The handles that an expression uses free, in ascending order. -/
def freeDecls (expr : Expr) : Std.ExtTreeSet Handle :=
  (Visitor.freeFinder.expr expr ⟨[], ∅⟩).free

mutual

/-- The handles that an expression uses free: those of its parts, less what a quantifier binds. -/
def freeHandles : Expr → Std.ExtTreeSet Handle
  | .ident _ id => .ofList id.decl.toList
  | .literal _ _ => ∅
  | .apply _ _ args => freeHandlesAll args
  | .quantified _ _ binders body =>
    (freeHandles body).filter fun handle => some handle ∉ binders.map Ident.decl

/-- The handles that some expression of a list uses free. -/
def freeHandlesAll : List Expr → Std.ExtTreeSet Handle
  | [] => ∅
  | expr :: rest => freeHandles expr ∪ freeHandlesAll rest

end

end Expr

end Graft
