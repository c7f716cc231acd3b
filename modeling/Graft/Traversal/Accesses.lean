import Graft.Expr.Path
import Graft.Traversal.Basic

/-!
# Map reads

Reads of a single index from a map that is a plain variable, the outermost first. Quantifiers are
opaque: reads under a binder are not reported. `Expr.ReadsAt` says where such a read stands.
-/

namespace Graft

/-- A read of the map `base` at `index`. -/
structure Access where
  base : Handle
  index : Expr
  deriving DecidableEq, Inhabited

/-- The read that an application makes by itself. -/
def Access.of? : Symbol → List Expr → Option Access
  | .mapSelect, [.ident _ id, index] => id.decl.map fun base => ⟨base, index⟩
  | _, _ => none

/-- Collects map reads outside quantifiers. -/
def Visitor.accessCollector : Visitor (List Access) where
  enter
    | .apply symbol args, accesses => accesses ++ (Access.of? symbol args).toList
    | _, accesses => accesses
  descends
    | .quantified _ _ _ => false
    | _ => true

/-- The map reads of an expression. -/
def Expr.accesses (expr : Expr) : List Access := Visitor.accessCollector.expr expr []

/-- The map reads of everything that a command evaluates: guards, indices of targets, right-hand
sides and inputs of calls. -/
def Command.accesses (command : Command) : List Access :=
  Visitor.accessCollector.command command []

/-! ## Where reads stand -/

/-- A path that enters no quantifier leads to a map selection with exactly one index, from an
identifier that has a handle. -/
def Expr.ReadsAt (expr : Expr) (π : Path) (access : Access) : Prop :=
  expr.OutsideQuantifiers π ∧ ∃ span span' id,
    expr.at? π = some (.apply span .mapSelect [.ident span' id, access.index]) ∧
      id.decl = some access.base

/-- The read at the end of a path, looked for without entering quantifiers. -/
def Expr.readAt? : Expr → Path → Option Access
  | .apply _ symbol args, [] => Access.of? symbol args
  | .apply _ _ args, i :: π => args[i]?.bind fun arg => readAt? arg π
  | _, _ => none

end Graft
