import Graft.Command.Parts
import Graft.Expr.Path
import Graft.Proofs.Traversal.Collectors
import Graft.Subst.Writes
import Graft.Traversal.Identifiers

/-!
# Identifier occurrences, part by part

The collector appends what it finds to what it has found before, so the occurrences of an expression,
a target or a command are those of its parts in order.
-/

namespace Graft

/-- Of all nodes only identifiers are collected. -/
theorem Visitor.identCollector_collects :
    identCollector.Collects fun | .ident id => [id] | _ => [] where
  enter node := by
    cases node with
    | ident id => exact fun found => rfl
    | _ => exact .nothing
  leave _ _ _ := rfl

namespace Expr

@[simp] theorem identifiers_ident (span : Span) (id : Ident) :
    (ident span id).identifiers = [id] := rfl

@[simp] theorem identifiers_literal (span : Span) (value : Literal) :
    (literal span value).identifiers = [] := rfl

@[simp] theorem identifiers_apply (span : Span) (symbol : Symbol) (args : List Expr) :
    (apply span symbol args).identifiers = args.flatMap identifiers :=
  (Visitor.identCollector_collects.exprs args).alone

@[simp] theorem identifiers_quantified (span : Span) (quantifier : Quantifier)
    (binders : List Ident) (body : Expr) :
    (quantified span quantifier binders body).identifiers = body.identifiers := rfl

theorem identifiers_subset_of_at? {expr node : Expr} {π : Path} (h : expr.at? π = some node) :
    node.identifiers ⊆ expr.identifiers := by
  refine subset_of_at? (f := identifiers) ?_ ?_ h
  · intro span symbol args arg harg id hid
    rw [identifiers_apply]
    exact List.mem_flatMap.mpr ⟨arg, harg, hid⟩
  · intro span quantifier binders body
    exact List.Subset.refl _

theorem mem_identifiers_iff {expr : Expr} {id : Ident} :
    id ∈ expr.identifiers ↔ ∃ π span, expr.at? π = some (.ident span id) := by
  refine ⟨?_, ?_⟩
  · intro h
    have hfound := exists_at?_of_mem (f := identifiers)
      (R := fun node id => ∃ span, node = .ident span id)
      (by simp) (by simp) (by simp) (by simp) expr id h
    rcases hfound with ⟨π, _, hnode, span, rfl⟩
    exact ⟨π, span, hnode⟩
  · rintro ⟨π, span, hnode⟩
    exact identifiers_subset_of_at? hnode (List.mem_singleton.mpr rfl)

end Expr

/-! ## Targets and commands -/

@[simp] theorem Target.identifiers_variable (span : Span) (id : Ident) :
    (Target.variable span id).identifiers = [id] := rfl

@[simp] theorem Target.identifiers_cell (span : Span) (base : Target) (indices : List Expr) :
    (Target.cell span base indices).identifiers =
      base.identifiers ++ indices.flatMap Expr.identifiers :=
  Visitor.identCollector_collects.exprs indices _

theorem Visitor.idents_identCollector (ids found : List Ident) :
    identCollector.idents ids found = found ++ ids := by
  rw [identCollector_collects.idents]
  show found ++ ids.flatMap (fun id => [id]) = _
  rw [List.flatMap_singleton']

namespace Command

@[simp] theorem identifiers_assert (span : Span) (condition : Expr) :
    identifiers ⟨span, .assert condition⟩ = condition.identifiers := rfl

@[simp] theorem identifiers_assume (span : Span) (condition : Expr) :
    identifiers ⟨span, .assume condition⟩ = condition.identifiers := rfl

@[simp] theorem identifiers_assign (span : Span) (pairs : List (Target × Expr)) :
    identifiers ⟨span, .assign pairs⟩ =
      pairs.flatMap fun (target, expr) => target.identifiers ++ expr.identifiers :=
  (Visitor.identCollector_collects.pairs pairs).alone

@[simp] theorem identifiers_call (span : Span) (callee : String) (decl : Option Handle)
    (inputs : List Expr) (outputs : List Ident) :
    identifiers ⟨span, .call callee decl inputs outputs⟩ =
      inputs.flatMap Expr.identifiers ++ outputs := by
  show Visitor.identCollector.idents outputs (Visitor.identCollector.exprs inputs []) = _
  rw [Visitor.idents_identCollector, (Visitor.identCollector_collects.exprs inputs).alone]
  rfl

@[simp] theorem identifiers_havoc (span : Span) (ids : List Ident) :
    identifiers ⟨span, .havoc ids⟩ = ids := Visitor.idents_identCollector ids []

end Command

namespace Fragment

@[simp] theorem identifiers_expr (whole : Expr) :
    identifiers (.expr whole) = whole.identifiers := rfl

@[simp] theorem identifiers_target (whole : Target) :
    identifiers (.target whole) = whole.identifiers := rfl

@[simp] theorem identifiers_command (whole : Command) :
    identifiers (.command whole) = whole.identifiers := rfl

@[simp] theorem identifiers_commands (all : List Command) :
    identifiers (.commands all) = all.flatMap Command.identifiers :=
  (Visitor.identCollector_collects.commands all).alone

end Fragment

/-! ## Where the occurrences of a fragment stand -/

theorem Target.mem_identifiers_iff {target : Target} {id : Ident} :
    id ∈ target.identifiers ↔
      (∃ expr ∈ target.indices, id ∈ expr.identifiers) ∨ id = target.root := by
  induction target with
  | «variable» span own => simp [indices, root]
  | cell span base indices ih =>
    simp only [identifiers_cell, List.mem_append, ih, List.mem_flatMap, Target.indices, root,
      or_and_right, exists_or]
    exact or_right_comm

theorem Command.mem_identifiers_iff {command : Command} {id : Ident} :
    id ∈ command.identifiers ↔
      (∃ expr ∈ command.exprs, id ∈ expr.identifiers) ∨ ∃ write ∈ command.writes, id = write.id := by
  obtain ⟨span, action⟩ := command
  cases action with
  | assign pairs =>
    -- a pair has the occurrences of its target and those of its right-hand side
    simp only [identifiers_assign, exprs, writes, List.mem_flatMap, List.mem_append,
      List.mem_singleton, List.mem_map, Prod.exists, Target.mem_identifiers_iff]
    grind [Target.write_id]
  | _ => simp [exprs, writes]

/-- An occurrence in a fragment stands in one of its expressions or is a variable that it writes. -/
theorem Fragment.mem_identifiers_iff {fragment : Fragment} {id : Ident} :
    id ∈ fragment.identifiers ↔
      (∃ expr ∈ fragment.exprs, id ∈ expr.identifiers) ∨
        ∃ write ∈ fragment.writes, id = write.id := by
  cases fragment with
  | expr whole => simp [exprs, writes]
  | target whole => simp [exprs, writes, Target.mem_identifiers_iff]
  | command whole => exact Command.mem_identifiers_iff
  | commands all =>
    simp only [identifiers_commands, exprs, writes, List.mem_flatMap, Command.mem_identifiers_iff]
    grind

end Graft
