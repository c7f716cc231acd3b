import Graft.Subst.Instantiate
import Mathlib.Data.List.Forall2

/-!
# Written variables

The places of a command at which a variable is written, from left to right. At each of them a
substitution must put an identifier; where it puts something else, the command faults there. A
command that does not fault *becomes* another one of the same kind, part by part.
-/

namespace Graft

/-- A place at which a variable is written. -/
structure Write where
  position : Position
  /-- What a fault at this place points at. -/
  span : Span
  id : Ident

/-- A target writes its innermost variable, and a fault points at that variable alone. -/
def Target.write : Target → Write
  | .variable span id => ⟨.assigned, span, id⟩
  | .cell _ base _ => base.write

@[simp] theorem Target.write_id (target : Target) : target.write.id = target.root := by
  induction target with
  | «variable» span id => rfl
  | cell span base indices ih => exact ih

/-- The variables that a command writes. A fault at an output of a call or at a forgotten variable
points at the whole command. -/
def Command.writes (command : Command) : List Write :=
  match command.action with
  | .assert _ => []
  | .assume _ => []
  | .assign pairs => pairs.map fun (target, _) => target.write
  | .call _ _ _ outputs => outputs.map (Write.mk .callOutput command.span)
  | .havoc ids => ids.map (Write.mk .havoced command.span)

/-- The variables that a fragment writes. -/
def Fragment.writes : Fragment → List Write
  | .expr _ => []
  | .target whole => [whole.write]
  | .command whole => whole.writes
  | .commands all => all.flatMap Command.writes

/-- The fault at a place where a substitution puts something that is no identifier. -/
def Subst.fault? (σ : Subst) (write : Write) : Option Fault :=
  match σ.ident? write.id with
  | none => none
  | some (.ident _ _) => none
  | some bound => some ⟨write.position, write.id.name, bound, write.span⟩

/-! ## What does not fault -/

/-- Holds of a target and the one that it becomes: its innermost variable is renamed, and its indices
are instantiated at every level. -/
inductive Target.Becomes (σ : Subst) : Target → Target → Prop where
  | variable (span : Span) {id id' : Ident} (renames : σ.Renames id id') :
      Becomes σ (.variable span id) (.variable span id')
  | cell (span : Span) {base base' : Target} (indices : List Expr) (becomes : Becomes σ base base') :
      Becomes σ (.cell span base indices) (.cell span base' (indices.map σ.instantiateExpr))

/-- Holds of an action and the one that it becomes: written variables are renamed and everything else
is instantiated. -/
inductive Action.Becomes (σ : Subst) : Action → Action → Prop where
  | assert (condition : Expr) :
      Becomes σ (.assert condition) (.assert (σ.instantiateExpr condition))
  | assume (condition : Expr) :
      Becomes σ (.assume condition) (.assume (σ.instantiateExpr condition))
  | assign {pairs pairs' : List (Target × Expr)}
      (becomes : List.Forall₂ (fun pair pair' =>
        pair.1.Becomes σ pair'.1 ∧ pair'.2 = σ.instantiateExpr pair.2) pairs pairs') :
      Becomes σ (.assign pairs) (.assign pairs')
  | call (callee : String) (decl : Option Handle) (inputs : List Expr) {outputs outputs' : List Ident}
      (renames : List.Forall₂ σ.Renames outputs outputs') :
      Becomes σ (.call callee decl inputs outputs)
        (.call (σ.callee callee decl).1 (σ.callee callee decl).2 (inputs.map σ.instantiateExpr)
          outputs')
  | havoc {ids ids' : List Ident} (renames : List.Forall₂ σ.Renames ids ids') :
      Becomes σ (.havoc ids) (.havoc ids')

/-- Holds of a command and the one that it becomes. -/
structure Command.Becomes (σ : Subst) (command command' : Command) : Prop where
  span : command'.span = command.span
  action : command.action.Becomes σ command'.action

/-- Holds of a fragment and the one that it becomes. -/
inductive Fragment.Becomes (σ : Subst) : Fragment → Fragment → Prop where
  | expr (whole : Expr) : Becomes σ (.expr whole) (.expr (σ.instantiateExpr whole))
  | target {whole whole' : Target} (becomes : whole.Becomes σ whole') :
      Becomes σ (.target whole) (.target whole')
  | command {whole whole' : Command} (becomes : whole.Becomes σ whole') :
      Becomes σ (.command whole) (.command whole')
  | commands {all all' : List Command} (becomes : List.Forall₂ (Command.Becomes σ) all all') :
      Becomes σ (.commands all) (.commands all')

namespace Subst

/-! ## Places that fault -/

variable {σ : Subst} {write : Write} {fault : Fault}

theorem fault?_eq_some_iff : σ.fault? write = some fault ↔
    ∃ bound, σ.ident? write.id = some bound ∧ bound.ident? = none ∧
      fault = ⟨write.position, write.id.name, bound, write.span⟩ := by
  unfold fault?
  cases σ.ident? write.id with
  | none => simp
  | some bound => cases bound <;> simp [Expr.ident?, eq_comm]

theorem fault?_eq_none_iff : σ.fault? write = none ↔ ∃ id, σ.Renames write.id id := by
  rw [exists_renames_iff]
  unfold fault?
  cases σ.ident? write.id with
  | none => simp
  | some bound => cases bound <;> simp [Expr.ident?]

end Subst

end Graft
