import Graft.Command.Basic
import Graft.Expr.Parts

/-!
# Parts of fragments

The expressions that stand in a target, a command or any other fragment, in the order in which they
are read, and through them what the fragment binds and applies.
-/

namespace Graft

/-- The indices of a target, from the innermost level of the map outwards. -/
def Target.indices : Target → List Expr
  | .variable _ _ => []
  | .cell _ base indices => base.indices ++ indices

/-- The expressions that a command evaluates: a guard, the indices and the right-hand side of each
pair, or the inputs of a call. -/
def Command.exprs (command : Command) : List Expr :=
  match command.action with
  | .assert condition => [condition]
  | .assume condition => [condition]
  | .assign pairs => pairs.flatMap fun (target, expr) => target.indices ++ [expr]
  | .call _ _ inputs _ => inputs
  | .havoc _ => []

/-- Puts another variable in the place of the one that a target writes. -/
def Target.redirect (f : Ident → Ident) : Target → Target
  | .variable span id => .variable span (f id)
  | .cell span base indices => .cell span (base.redirect f) indices

/-- Puts other variables in the places of those that a command writes. -/
def Command.redirect (f : Ident → Ident) (command : Command) : Command where
  span := command.span
  action :=
    match command.action with
    | .assert condition => .assert condition
    | .assume condition => .assume condition
    | .assign pairs => .assign (pairs.map fun (target, expr) => (target.redirect f, expr))
    | .call callee decl inputs outputs => .call callee decl inputs (outputs.map f)
    | .havoc ids => .havoc (ids.map f)

theorem Target.indices_redirect (f : Ident → Ident) (target : Target) :
    (target.redirect f).indices = target.indices := by
  induction target with
  | «variable» span id => rfl
  | cell span base indices ih => rw [redirect, Target.indices, ih, Target.indices]

/-- What a command evaluates does not depend on the variables that it writes. -/
theorem Command.exprs_redirect (f : Ident → Ident) (command : Command) :
    (command.redirect f).exprs = command.exprs := by
  obtain ⟨span, action⟩ := command
  cases action with
  | assign pairs =>
    simp only [redirect, exprs, List.flatMap_map, Target.indices_redirect]
  | _ => rfl

/-- Holds of an action and the expressions that it evaluates for their value, in order: a guard, the
right-hand sides from left to right, or the inputs of a call. Variables are forgotten without any. -/
inductive Action.Evaluates : Action → List Expr → Prop where
  | assert (condition : Expr) : Evaluates (.assert condition) [condition]
  | assume (condition : Expr) : Evaluates (.assume condition) [condition]
  | assign (pairs : List (Target × Expr)) :
      Evaluates (.assign pairs) (pairs.map fun (_, value) => value)
  | call (callee : String) (decl : Option Handle) (inputs : List Expr) (outputs : List Ident) :
      Evaluates (.call callee decl inputs outputs) inputs
  | havoc (ids : List Ident) : Evaluates (.havoc ids) []

theorem Command.candidates_eq_iff (command : Command) (exprs : List Expr) :
    command.candidates = exprs ↔ command.action.Evaluates exprs := by
  obtain ⟨span, action⟩ := command
  refine ⟨fun h => ?_, fun h => ?_⟩
  · rw [← h]
    cases action with
    | assert condition => exact .assert condition
    | assume condition => exact .assume condition
    | assign pairs => exact .assign pairs
    | call callee decl inputs outputs => exact .call callee decl inputs outputs
    | havoc ids => exact .havoc ids
  · cases h <;> rfl

/-- Holds of two actions of one kind that evaluate the same expressions for their value. They may
differ in what they write, in the indices at which they write it and in the procedure that they
call. -/
inductive Action.SameValues : Action → Action → Prop where
  | assert (condition : Expr) : SameValues (.assert condition) (.assert condition)
  | assume (condition : Expr) : SameValues (.assume condition) (.assume condition)
  | assign {pairs pairs' : List (Target × Expr)} (values : pairs.map Prod.snd = pairs'.map Prod.snd) :
      SameValues (.assign pairs) (.assign pairs')
  | call (callee callee' : String) (decl decl' : Option Handle) (inputs : List Expr)
      (outputs outputs' : List Ident) :
      SameValues (.call callee decl inputs outputs) (.call callee' decl' inputs outputs')
  | havoc (ids ids' : List Ident) : SameValues (.havoc ids) (.havoc ids')

theorem Action.SameValues.candidates_eq {action action' : Action} (h : action.SameValues action')
    (span span' : Span) :
    (Command.mk span action).candidates = (Command.mk span' action').candidates := by
  cases h with
  | assign values => exact values
  | _ => rfl

/-- The procedure that a command calls. -/
def Command.callees (command : Command) : List String :=
  match command.action with
  | .call callee _ _ _ => [callee]
  | _ => []

namespace Fragment

/-- The expressions that stand in a fragment. -/
def exprs : Fragment → List Expr
  | .expr whole => [whole]
  | .target whole => whole.indices
  | .command whole => whole.exprs
  | .commands all => all.flatMap Command.exprs

/-- The procedures that a fragment calls. -/
def callees : Fragment → List String
  | .expr _ => []
  | .target _ => []
  | .command whole => whole.callees
  | .commands all => all.flatMap Command.callees

/-- The binders of every quantifier of a fragment. -/
def binders (fragment : Fragment) : List Ident := fragment.exprs.flatMap Expr.binders

/-- The symbol of every application of a fragment. -/
def symbols (fragment : Fragment) : List Symbol := fragment.exprs.flatMap Expr.symbols

end Fragment

end Graft
