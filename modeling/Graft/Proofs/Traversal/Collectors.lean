import Graft.Command.Parts
import Graft.Proofs.Traversal.Walks

/-!
# Collectors

A visitor *collects* when it appends something at every node and never looks at what it has found
before. Then every walk appends, and what it appends to a whole is what it appends to the parts, one
after the other (`Visitor.Collects.exprs`, `Visitor.Collects.pairs`). A collector that takes nothing
from identifiers, targets and commands finds in a fragment what it finds in the expressions of the
fragment (`Visitor.CollectsFromExprs.fragment`).
-/

namespace Graft

/-- Holds of a walk that appends the given elements to whatever was found before. -/
def Appends {α : Type} (walk : List α → List α) (added : List α) : Prop :=
  ∀ found, walk found = found ++ added

namespace Appends

variable {α β : Type} {walk walk' : List α → List α} {added added' : List α}

theorem nothing : Appends (fun found : List α => found) [] :=
  fun found => (List.append_nil found).symm

theorem andThen (h : Appends walk added) (h' : Appends walk' added') :
    Appends (fun found => walk' (walk found)) (added ++ added') := by
  intro found
  show walk' (walk found) = _
  rw [h, h', List.append_assoc]

/-- What a walk appends is what it finds by itself. -/
theorem alone (h : Appends walk added) : walk [] = added := by
  rw [h, List.nil_append]

theorem self (h : Appends walk added) : Appends walk (walk []) := by
  rw [h.alone]
  exact h

theorem foldl {step : List α → β → List α} {each : β → List α}
    (h : ∀ b, Appends (fun found => step found b) (each b)) (bs : List β) :
    Appends (fun found => bs.foldl step found) (bs.flatMap each) := by
  induction bs with
  | nil => exact nothing
  | cons b rest ih => exact (h b).andThen ih

end Appends

/-- Holds of a visitor that appends what it takes from a node itself, and does nothing on leaving. -/
structure Visitor.Collects {α : Type} (visitor : Visitor (List α)) (own : Node → List α) :
    Prop where
  enter : ∀ node, Appends (visitor.enter node) (own node)
  leave : ∀ node before reached, visitor.leave node before reached = reached

namespace Visitor.Collects

variable {α : Type} {visitor : Visitor (List α)} {own : Node → List α}

/-- A node comes before its parts, which add nothing if they are not walked. -/
theorem stopBy {parts : List α → List α} {added : List α} (h : visitor.Collects own)
    (hparts : Appends parts added) (node : Node) :
    Appends (visitor.stopBy node parts)
      (own node ++ if visitor.descends node then added else []) := by
  intro found
  rw [Visitor.stopBy, h.leave, h.enter]
  by_cases hdescends : visitor.descends node = true
  · rw [if_pos hdescends, if_pos hdescends, hparts, List.append_assoc]
  · rw [if_neg hdescends, if_neg hdescends, List.append_nil]

/-- Whatever a collector walks, it appends what it would find by itself. -/
theorem lifts (h : visitor.Collects own) :
    visitor.Lifts visitor fun walk _ => Appends walk (walk []) where
  nothing := .nothing
  andThen hwalk hnext := (hwalk.andThen hnext).self
  stopBy hparts node := (h.stopBy hparts node).self

theorem expr (h : visitor.Collects own) (expr : Expr) :
    Appends (visitor.expr expr) (visitor.expr expr []) :=
  h.lifts.expr expr

theorem exprs (h : visitor.Collects own) (exprs : List Expr) :
    Appends (visitor.exprs exprs) (exprs.flatMap fun expr => visitor.expr expr []) := by
  induction exprs with
  | nil => exact .nothing
  | cons expr rest ih => exact (h.expr expr).andThen ih

theorem target (h : visitor.Collects own) (target : Target) :
    Appends (visitor.target target) (visitor.target target []) :=
  h.lifts.target target

theorem idents (h : visitor.Collects own) (ids : List Ident) :
    Appends (visitor.idents ids) (ids.flatMap fun id => visitor.ident id []) :=
  .foldl h.lifts.ident ids

theorem pairs (h : visitor.Collects own) (pairs : List (Target × Expr)) :
    Appends (visitor.pairs pairs)
      (pairs.flatMap fun (target, expr) => visitor.target target [] ++ visitor.expr expr []) :=
  .foldl (fun (target, expr) => (h.target target).andThen (h.expr expr)) pairs

theorem commands (h : visitor.Collects own) (commands : List Command) :
    Appends (fun found => commands.foldl (fun found command => visitor.command command found) found)
      (commands.flatMap fun command => visitor.command command []) :=
  .foldl h.lifts.command commands

end Visitor.Collects

/-! ## Collecting from expressions alone -/

/-- Holds of a collector that takes nothing from an identifier, a target or a command by itself, and
walks the parts of all targets and commands. -/
structure Visitor.CollectsFromExprs {α : Type} (visitor : Visitor (List α)) (own : Node → List α) :
    Prop extends visitor.Collects own where
  ident : ∀ id, own (.ident id) = []
  target : ∀ target, own (.target target) = [] ∧ visitor.descends (.target target) = true
  command : ∀ command, own (.command command) = [] ∧ visitor.descends (.command command) = true

namespace Visitor.CollectsFromExprs

variable {α : Type} {visitor : Visitor (List α)} {own : Node → List α}

theorem idents_nothing (h : visitor.CollectsFromExprs own) (ids : List Ident) :
    Appends (visitor.idents ids) [] := by
  have hid : ∀ id, visitor.ident id [] = [] := by
    intro id
    have hown := (h.stopBy .nothing (.ident id)).alone
    rw [h.ident, ite_self] at hown
    exact hown
  have hnone : ids.flatMap (fun id => visitor.ident id []) = [] :=
    List.flatMap_eq_nil_iff.mpr fun id _ => hid id
  rw [← hnone]
  exact h.idents ids

/-- Of a target only the indices are asked, and those of the base come first. -/
theorem target_indices (h : visitor.CollectsFromExprs own) (target : Target) :
    Appends (visitor.target target) (target.indices.flatMap fun expr => visitor.expr expr []) := by
  induction target with
  | «variable» span id =>
    have hparts := h.stopBy (h.idents_nothing [id]) (.target (.variable span id))
    rw [(h.target _).1, ite_self] at hparts
    exact hparts
  | cell span base indices ih =>
    have hparts := h.stopBy (ih.andThen (h.exprs indices)) (.target (.cell span base indices))
    rw [(h.target _).1, if_pos (h.target _).2] at hparts
    rw [Target.indices, List.flatMap_append]
    exact hparts

theorem action_exprs (h : visitor.CollectsFromExprs own) (span : Span) (action : Action) :
    Appends (visitor.action action)
      ((Command.mk span action).exprs.flatMap fun expr => visitor.expr expr []) := by
  cases action with
  | assert condition =>
    rw [Command.exprs, List.flatMap_singleton]
    exact h.expr condition
  | assume condition =>
    rw [Command.exprs, List.flatMap_singleton]
    exact h.expr condition
  | assign pairs =>
    -- each pair adds what is found in the target's indices, then in the right-hand side
    rw [Command.exprs, List.flatMap_assoc]
    refine .foldl (fun pair => ?_) pairs
    obtain ⟨target, expr⟩ := pair
    rw [List.flatMap_append, List.flatMap_singleton]
    exact (h.target_indices target).andThen (h.expr expr)
  | call callee decl inputs outputs =>
    have hboth := (h.exprs inputs).andThen (h.idents_nothing outputs)
    rw [List.append_nil] at hboth
    exact hboth
  | havoc ids => exact h.idents_nothing ids

theorem command_exprs (h : visitor.CollectsFromExprs own) (command : Command) :
    Appends (visitor.command command) (command.exprs.flatMap fun expr => visitor.expr expr []) := by
  have hparts := h.stopBy (h.action_exprs command.span command.action) (.command command)
  rw [(h.command command).1, if_pos (h.command command).2] at hparts
  exact hparts

/-- What is found in a fragment is what is found in its expressions, one after the other. -/
theorem fragment (h : visitor.CollectsFromExprs own) (fragment : Fragment) :
    visitor.fragment fragment [] = fragment.exprs.flatMap fun expr => visitor.expr expr [] := by
  cases fragment with
  | expr expr =>
    rw [Fragment.exprs, List.flatMap_singleton]
    rfl
  | target target => exact (h.target_indices target).alone
  | command command => exact (h.command_exprs command).alone
  | commands commands =>
    rw [Fragment.exprs, List.flatMap_assoc]
    exact (Appends.foldl h.command_exprs commands).alone

end Visitor.CollectsFromExprs

end Graft
