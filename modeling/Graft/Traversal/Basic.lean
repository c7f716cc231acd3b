import Graft.Command.Basic

/-!
# Traversal

A read-only walk over expressions, targets and commands that threads a state. At every node the
visitor updates the state on entering, says whether the node's parts are walked, and updates the
state again on leaving. Binders of a quantifier are declarations rather than uses and are not
walked.

Parts are walked in a fixed order: arguments from left to right, the base of a target before its
indices, targets before right-hand sides, inputs before outputs.
-/

namespace Graft

/-- The kinds of node at which a walk stops by. -/
inductive Hook where
  | expr
  | ident
  | literal
  | apply
  | quantified
  | target
  | command
  deriving DecidableEq, Inhabited

/-- What a walk stops by at. An expression is met first as a whole and then by its own form. -/
inductive Node where
  | expr (expr : Expr)
  | ident (id : Ident)
  | literal (value : Literal)
  | apply (symbol : Symbol) (args : List Expr)
  | quantified (quantifier : Quantifier) (binders : List Ident) (body : Expr)
  | target (target : Target)
  | command (command : Command)
  deriving DecidableEq, Inhabited

/-- The kind of a node. -/
def Node.hook : Node → Hook
  | .expr _ => .expr
  | .ident _ => .ident
  | .literal _ => .literal
  | .apply _ _ => .apply
  | .quantified _ _ _ => .quantified
  | .target _ => .target
  | .command _ => .command

/-- What to do at each node of a walk. -/
structure Visitor (State : Type) where
  /-- Updates the state before the parts of a node are walked. -/
  enter : Node → State → State
  /-- Tells whether the parts of a node are walked. -/
  descends : Node → Bool := fun _ => true
  /-- Updates the state after a node, given the state before entering and the one reached. -/
  leave : Node → State → State → State := fun _ _ reached => reached

namespace Visitor

variable {State : Type} (visitor : Visitor State)

/-- Stops by at a node whose parts are walked by `parts`. -/
def stopBy (node : Node) (parts : State → State) (state : State) : State :=
  let entered := visitor.enter node state
  visitor.leave node state (if visitor.descends node then parts entered else entered)

/-- Walks an identifier. -/
def ident (id : Ident) (state : State) : State :=
  visitor.stopBy (.ident id) (fun state => state) state

/-- Walks a literal. -/
def literal (value : Literal) (state : State) : State :=
  visitor.stopBy (.literal value) (fun state => state) state

/-- Walks identifiers from left to right. -/
def idents (ids : List Ident) (state : State) : State :=
  ids.foldl (fun state id => visitor.ident id state) state

mutual

/-- Walks an expression. -/
def expr : Expr → State → State
  | .ident span id, state => visitor.stopBy (.expr (.ident span id)) (visitor.ident id) state
  | .literal span value, state =>
    visitor.stopBy (.expr (.literal span value)) (visitor.literal value) state
  | .apply span symbol args, state =>
    visitor.stopBy (.expr (.apply span symbol args))
      (visitor.stopBy (.apply symbol args) fun state => exprs args state) state
  | .quantified span quantifier binders body, state =>
    visitor.stopBy (.expr (.quantified span quantifier binders body))
      (visitor.stopBy (.quantified quantifier binders body) fun state => expr body state) state

/-- Walks expressions from left to right. -/
def exprs : List Expr → State → State
  | [], state => state
  | first :: rest, state => exprs rest (expr first state)

end

/-- Walks an assignment target. -/
def target : Target → State → State
  | .variable span id, state =>
    visitor.stopBy (.target (.variable span id)) (visitor.ident id) state
  | .cell span base indices, state =>
    visitor.stopBy (.target (.cell span base indices))
      (fun state => visitor.exprs indices (target base state)) state

/-- Walks the pairs of an assignment. -/
def pairs (pairs : List (Target × Expr)) (state : State) : State :=
  pairs.foldl (fun state (target, expr) => visitor.expr expr (visitor.target target state)) state

/-- Walks the parts of a command. -/
def action : Action → State → State
  | .assert condition, state => visitor.expr condition state
  | .assume condition, state => visitor.expr condition state
  | .assign pairs, state => visitor.pairs pairs state
  | .call _ _ inputs outputs, state => visitor.idents outputs (visitor.exprs inputs state)
  | .havoc ids, state => visitor.idents ids state

/-- Walks a command. -/
def command (command : Command) (state : State) : State :=
  visitor.stopBy (.command command) (visitor.action command.action) state

/-- Walks a fragment. -/
def fragment : Fragment → State → State
  | .expr expr, state => visitor.expr expr state
  | .target target, state => visitor.target target state
  | .command command, state => visitor.command command state
  | .commands commands, state =>
    commands.foldl (fun state command => visitor.command command state) state

end Visitor

end Graft
