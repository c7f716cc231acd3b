import Graft.Expr.Basic

/-!
# Commands

What programs do: check or assume a condition, assign, call a procedure, or forget the values of
some variables. An assignment writes to a *target*, a variable under any number of map indices.
-/

namespace Graft

inductive Target where
  | variable (span : Span) (id : Ident)
  /-- One level of map indices over another target. -/
  | cell (span : Span) (base : Target) (indices : List Expr)
  deriving DecidableEq, Inhabited

namespace Target

def span : Target → Span
  | .variable span _ => span
  | .cell span _ _ => span

/-- The variable that is written in the end. -/
def root : Target → Ident
  | .variable _ id => id
  | .cell _ base _ => base.root

/-- The expression that reads what a target writes. -/
def read : Target → Expr
  | .variable span id => .ident span id
  | .cell span base indices => .apply span .mapSelect (base.read :: indices)

end Target

inductive Action where
  | assert (condition : Expr)
  | assume (condition : Expr)
  /-- Writes several targets at once. -/
  | assign (pairs : List (Target × Expr))
  | call (callee : String) (decl : Option Handle) (inputs : List Expr) (outputs : List Ident)
  | havoc (ids : List Ident)
  deriving DecidableEq, Inhabited

structure Command where
  span : Span
  action : Action
  deriving DecidableEq, Inhabited

def Action.keyword : Action → String
  | .assert _ => "assert"
  | .assume _ => "assume"
  | .assign _ => "assign"
  | .call _ _ _ _ => "call"
  | .havoc _ => "havoc"

namespace Command

/-- The expressions that a command evaluates for their value and that a pattern may match: a guard,
the right-hand sides, or the inputs of a call. -/
def candidates (command : Command) : List Expr :=
  match command.action with
  | .assert condition => [condition]
  | .assume condition => [condition]
  | .assign pairs => pairs.map Prod.snd
  | .call _ _ inputs _ => inputs
  | .havoc _ => []

end Command

/-- A piece of program that can be instantiated: an expression, a target, a command or a list of
commands. -/
inductive Fragment where
  | expr (expr : Expr)
  | target (target : Target)
  | command (command : Command)
  | commands (commands : List Command)
  deriving DecidableEq, Inhabited

end Graft
