import Graft.Command.Basic
import Graft.Subst.Basic
import Graft.Subst.Fault

/-!
# Scoped substitution

Instantiation without a stack: under a quantifier the substitution itself is narrowed, so that each
part of a template is instantiated by what is in scope there.
-/

namespace Graft

namespace Subst

/-- A binder becomes the identifier that it is bound to, and stays as it is otherwise. -/
def scopedBinder (σ : Subst) (binder : Ident) : Ident :=
  match σ.ident? binder with
  | some (.ident _ renamed) => renamed
  | _ => binder

/-- Forgets what a binder is bound to, unless that is an identifier. -/
def hideBinder (σ : Subst) (binder : Ident) : Subst :=
  match binder.decl with
  | none => σ
  | some handle =>
    match σ.value? handle with
    | none => σ
    | some (.ident _ _) => σ
    | some _ => σ.unbind handle

/-- The substitution in scope under the given binders. -/
def under (σ : Subst) (binders : List Ident) : Subst := binders.foldl hideBinder σ

mutual

def scopedExpr (σ : Subst) : Expr → Expr
  | .ident span id => (σ.ident? id).getD (.ident span id)
  | .literal span value => .literal span value
  | .apply span symbol args => .apply span (σ.rename symbol) (scopedExprs σ args)
  | .quantified span quantifier binders body =>
    .quantified span quantifier (binders.map σ.scopedBinder) (scopedExpr (σ.under binders) body)

def scopedExprs (σ : Subst) : List Expr → List Expr
  | [] => []
  | expr :: rest => scopedExpr σ expr :: scopedExprs σ rest

end

theorem scopedExprs_eq_map (σ : Subst) (exprs : List Expr) :
    σ.scopedExprs exprs = exprs.map σ.scopedExpr := by
  induction exprs with
  | nil => rfl
  | cons expr rest ih => rw [scopedExprs, ih, List.map_cons]

/-! ## Targets and commands

No quantifier stands around them, so the whole substitution is in scope. -/

/-- Replaces a variable in a position where it must stay one. -/
def scopedVariable (σ : Subst) (position : Position) (span : Span) (id : Ident) :
    Except Fault Ident :=
  match σ.ident? id with
  | none => .ok id
  | some (.ident _ renamed) => .ok renamed
  | some found => .error ⟨position, id.name, found, span⟩

def scopedTarget (σ : Subst) : Target → Except Fault Target
  | .variable span id => (σ.scopedVariable .assigned span id).map (.variable span)
  | .cell span base indices =>
    (scopedTarget σ base).map fun base => .cell span base (σ.scopedExprs indices)

def scopedAction (σ : Subst) (span : Span) : Action → Except Fault Action
  | .assert condition => .ok (.assert (σ.scopedExpr condition))
  | .assume condition => .ok (.assume (σ.scopedExpr condition))
  | .assign pairs =>
    (pairs.mapM fun (target, expr) =>
      (σ.scopedTarget target).map fun target => (target, σ.scopedExpr expr)).map .assign
  | .call name decl inputs outputs =>
    let (name, decl) := σ.callee name decl
    (outputs.mapM (σ.scopedVariable .callOutput span)).map
      (.call name decl (σ.scopedExprs inputs))
  | .havoc ids => (ids.mapM (σ.scopedVariable .havoced span)).map .havoc

def scopedCommand (σ : Subst) (command : Command) : Except Fault Command :=
  (σ.scopedAction command.span command.action).map (Command.mk command.span)

def scopedFragment (σ : Subst) : Fragment → Except Fault Fragment
  | .expr expr => .ok (.expr (σ.scopedExpr expr))
  | .target target => (σ.scopedTarget target).map .target
  | .command command => (σ.scopedCommand command).map .command
  | .commands commands => (commands.mapM σ.scopedCommand).map .commands

end Subst

end Graft
