import Graft.Command.Basic
import Graft.Subst.Basic
import Graft.Subst.Fault

/-!
# Instantiation of templates

A substitution is applied to a template with a stack of *hidden* handles. A quantifier renames each
binder that is bound to an identifier; a binder that is bound to anything else keeps its name and
hides the binding until the quantifier ends. Captured trees are inserted as they are and never
instantiated again, and every node of the template keeps its span.

The stack is carried from fragment to fragment by `instantiateAll`, whether or not one of them
faults.
-/

namespace Graft

/-- Computations that carry the stack of hidden handles, the innermost first. -/
abbrev Hiding := StateM (List Handle)

/-- Computations that carry the stack of hidden handles and may fault. -/
abbrev Instantiation := ExceptT Fault Hiding

namespace Subst

/-- The expression captured for what an identifier denotes, unless its handle is hidden. -/
def visible? (σ : Subst) (hidden : List Handle) (id : Ident) : Option Expr :=
  id.decl.bind fun handle => if handle ∈ hidden then none else σ.value? handle

/-! ## Expressions -/

def binderM (σ : Subst) (binder : Ident) : Hiding Ident := do
  match σ.visible? (← get) binder with
  | some (.ident _ renamed) => return renamed
  | some _ =>
    modify (binder.decl.toList ++ ·)
    return binder
  | none => return binder

def bindersM (σ : Subst) : List Ident → Hiding (List Ident)
  | [] => return []
  | binder :: rest => do
    let binder ← σ.binderM binder
    let rest ← bindersM σ rest
    return binder :: rest

mutual

def exprM (σ : Subst) : Expr → Hiding Expr
  | .ident span id => do
    return (σ.visible? (← get) id).getD (.ident span id)
  | .literal span value => return .literal span value
  | .apply span symbol args => do
    let args ← exprsM σ args
    return .apply span (σ.rename symbol) args
  | .quantified span quantifier binders body => do
    let depth := (← get).length
    let binders ← σ.bindersM binders
    let body ← exprM σ body
    modify fun hidden => hidden.drop (hidden.length - depth)
    return .quantified span quantifier binders body

def exprsM (σ : Subst) : List Expr → Hiding (List Expr)
  | [] => return []
  | expr :: rest => do
    let expr ← exprM σ expr
    let rest ← exprsM σ rest
    return expr :: rest

end

/-! ## Targets and commands -/

/-- Instantiates a variable in a position where it must stay one. -/
def variableM (σ : Subst) (position : Position) (span : Span) (id : Ident) :
    Instantiation Ident := do
  match σ.visible? (← get) id with
  | none => return id
  | some (.ident _ renamed) => return renamed
  | some found => throw ⟨position, id.name, found, span⟩

def variablesM (σ : Subst) (position : Position) (span : Span) :
    List Ident → Instantiation (List Ident)
  | [] => return []
  | id :: rest => do
    let id ← σ.variableM position span id
    let rest ← variablesM σ position span rest
    return id :: rest

/-- Instantiates an assignment target, of which only the innermost variable can fault. -/
def targetM (σ : Subst) : Target → Instantiation Target
  | .variable span id => do
    let id ← σ.variableM .assigned span id
    return .variable span id
  | .cell span base indices => do
    let indices ← σ.exprsM indices
    let base ← targetM σ base
    return .cell span base indices

/-- Instantiates the pairs of an assignment, each target before its right-hand side. -/
def pairsM (σ : Subst) : List (Target × Expr) → Instantiation (List (Target × Expr))
  | [] => return []
  | (target, expr) :: rest => do
    let target ← σ.targetM target
    let expr ← σ.exprM expr
    let rest ← pairsM σ rest
    return (target, expr) :: rest

def actionM (σ : Subst) (span : Span) : Action → Instantiation Action
  | .assert condition => do
    let condition ← σ.exprM condition
    return .assert condition
  | .assume condition => do
    let condition ← σ.exprM condition
    return .assume condition
  | .assign pairs => do
    let pairs ← σ.pairsM pairs
    return .assign pairs
  | .call name decl inputs outputs => do
    let (name, decl) := σ.callee name decl
    let inputs ← σ.exprsM inputs
    let outputs ← σ.variablesM .callOutput span outputs
    return .call name decl inputs outputs
  | .havoc ids => do
    let ids ← σ.variablesM .havoced span ids
    return .havoc ids

def commandM (σ : Subst) (command : Command) : Instantiation Command := do
  let action ← σ.actionM command.span command.action
  return ⟨command.span, action⟩

/-- Instantiates commands from left to right, up to the first fault. -/
def commandsM (σ : Subst) : List Command → Instantiation (List Command)
  | [] => return []
  | command :: rest => do
    let command ← σ.commandM command
    let rest ← commandsM σ rest
    return command :: rest

def fragmentM (σ : Subst) : Fragment → Instantiation Fragment
  | .expr expr => do
    let expr ← σ.exprM expr
    return .expr expr
  | .target target => do
    let target ← σ.targetM target
    return .target target
  | .command command => do
    let command ← σ.commandM command
    return .command command
  | .commands commands => do
    let commands ← σ.commandsM commands
    return .commands commands

/-- Instantiates fragments one after the other with one stack; a fault of one does not keep the
next from being instantiated. -/
def fragmentsM (σ : Subst) : List Fragment → Hiding (List (Except Fault Fragment))
  | [] => return []
  | fragment :: rest => do
    let answer ← (σ.fragmentM fragment).run
    let rest ← fragmentsM σ rest
    return answer :: rest

/-! ## Starting with nothing hidden -/

def instantiateExpr (σ : Subst) (expr : Expr) : Expr := ((σ.exprM expr).run []).1

def instantiateTarget (σ : Subst) (target : Target) : Except Fault Target :=
  ((σ.targetM target).run.run []).1

def instantiateCommand (σ : Subst) (command : Command) : Except Fault Command :=
  ((σ.commandM command).run.run []).1

def instantiateCommands (σ : Subst) (commands : List Command) : Except Fault (List Command) :=
  ((σ.commandsM commands).run.run []).1

def instantiate (σ : Subst) (fragment : Fragment) : Except Fault Fragment :=
  ((σ.fragmentM fragment).run.run []).1

/-- Applies a substitution to fragments in order, with one stack throughout. -/
def instantiateAll (σ : Subst) (fragments : List Fragment) : List (Except Fault Fragment) :=
  ((σ.fragmentsM fragments).run []).1

end Subst

end Graft
