import Graft.Traversal.Basic

/-!
# Walks of two visitors

What is said of two visitors step by step is said of their walks: a relation *lifts* if it holds of
doing nothing, of one walk after another, and of stopping by at a node whose parts it holds of. Then
it holds of the walks over every expression, target, command and fragment (`Visitor.Lifts.fragment`).
-/

namespace Graft

/-- Holds of a relation between the walks of two visitors that respects the ways in which walks are
put together. -/
structure Visitor.Lifts {State State' : Type} (visitor : Visitor State) (visitor' : Visitor State')
    (R : (State → State) → (State' → State') → Prop) : Prop where
  nothing : R (fun state => state) fun state => state
  andThen : ∀ {walk next walk' next'}, R walk walk' → R next next' →
    R (fun state => next (walk state)) fun state => next' (walk' state)
  stopBy : ∀ {parts parts'}, R parts parts' → ∀ node,
    R (visitor.stopBy node parts) (visitor'.stopBy node parts')

namespace Visitor.Lifts

variable {State State' : Type} {visitor : Visitor State} {visitor' : Visitor State'}
  {R : (State → State) → (State' → State') → Prop}

theorem foldl {α : Type} {step : State → α → State} {step' : State' → α → State'}
    (h : visitor.Lifts visitor' R) (hstep : ∀ a, R (fun state => step state a)
      fun state => step' state a) (as : List α) :
    R (fun state => as.foldl step state) fun state => as.foldl step' state := by
  induction as with
  | nil => exact h.nothing
  | cons a rest ih => exact h.andThen (hstep a) ih

theorem ident (h : visitor.Lifts visitor' R) (id : Ident) :
    R (visitor.ident id) (visitor'.ident id) :=
  h.stopBy h.nothing (.ident id)

theorem literal (h : visitor.Lifts visitor' R) (value : Literal) :
    R (visitor.literal value) (visitor'.literal value) :=
  h.stopBy h.nothing (.literal value)

theorem exprs_of {exprs : List Expr} (h : visitor.Lifts visitor' R)
    (hexprs : ∀ expr ∈ exprs, R (visitor.expr expr) (visitor'.expr expr)) :
    R (visitor.exprs exprs) (visitor'.exprs exprs) := by
  induction exprs with
  | nil => exact h.nothing
  | cons expr rest ih =>
    have hfirst := hexprs expr List.mem_cons_self
    have hboth := h.andThen hfirst (ih fun e he => hexprs e (List.mem_cons_of_mem _ he))
    exact hboth

theorem expr (h : visitor.Lifts visitor' R) (expr : Expr) :
    R (visitor.expr expr) (visitor'.expr expr) := by
  induction expr using Expr.induction with
  | ident span id => exact h.stopBy (h.ident id) (.expr (.ident span id))
  | literal span value => exact h.stopBy (h.literal value) (.expr (.literal span value))
  | apply span symbol args argsIH =>
    have hargs := h.stopBy (h.exprs_of argsIH) (.apply symbol args)
    exact h.stopBy hargs (.expr (.apply span symbol args))
  | quantified span quantifier binders body bodyIH =>
    have hbody := h.stopBy bodyIH (.quantified quantifier binders body)
    exact h.stopBy hbody (.expr (.quantified span quantifier binders body))

theorem exprs (h : visitor.Lifts visitor' R) (exprs : List Expr) :
    R (visitor.exprs exprs) (visitor'.exprs exprs) :=
  h.exprs_of fun expr _ => h.expr expr

theorem target (h : visitor.Lifts visitor' R) (target : Target) :
    R (visitor.target target) (visitor'.target target) := by
  induction target with
  | «variable» span id => exact h.stopBy (h.ident id) (.target (.variable span id))
  | cell span base indices ih =>
    exact h.stopBy (h.andThen ih (h.exprs indices)) (.target (.cell span base indices))

theorem idents (h : visitor.Lifts visitor' R) (ids : List Ident) :
    R (visitor.idents ids) (visitor'.idents ids) :=
  h.foldl h.ident ids

theorem pairs (h : visitor.Lifts visitor' R) (pairs : List (Target × Expr)) :
    R (visitor.pairs pairs) (visitor'.pairs pairs) :=
  h.foldl (fun (target, expr) => h.andThen (h.target target) (h.expr expr)) pairs

theorem action (h : visitor.Lifts visitor' R) (action : Action) :
    R (visitor.action action) (visitor'.action action) := by
  cases action with
  | assert condition => exact h.expr condition
  | assume condition => exact h.expr condition
  | assign pairs => exact h.pairs pairs
  | call callee decl inputs outputs =>
    have hboth := h.andThen (h.exprs inputs) (h.idents outputs)
    exact hboth
  | havoc ids => exact h.idents ids

theorem command (h : visitor.Lifts visitor' R) (command : Command) :
    R (visitor.command command) (visitor'.command command) :=
  h.stopBy (h.action command.action) (.command command)

theorem fragment (h : visitor.Lifts visitor' R) (fragment : Fragment) :
    R (visitor.fragment fragment) (visitor'.fragment fragment) := by
  cases fragment with
  | expr expr => exact h.expr expr
  | target target => exact h.target target
  | command command => exact h.command command
  | commands commands => exact h.foldl h.command commands

end Visitor.Lifts

end Graft
