import Graft.Command.Parts
import Graft.Proofs.Traversal.Collectors
import Graft.Traversal.Accesses
import Mathlib.Data.List.Basic
import Mathlib.Data.List.Forall2

/-!
# Map reads, part by part

The collector asks each application for the read that it makes by itself, and then its arguments. It
does not look into quantifiers. So the reads of an expression are those at its paths outside
quantifiers, in pre-order, and the reads of a command are those of the expressions that it evaluates
(`accesses_stand_in_order`).
-/

namespace Graft

/-- Of all nodes only applications are asked for a read. -/
theorem Visitor.accessCollector_collects :
    accessCollector.CollectsFromExprs fun
      | .apply symbol args => (Access.of? symbol args).toList
      | _ => [] where
  enter node := by
    cases node with
    | apply symbol args => exact fun found => rfl
    | _ => exact .nothing
  leave _ _ _ := rfl
  ident _ := rfl
  target _ := ⟨rfl, rfl⟩
  command _ := ⟨rfl, rfl⟩

theorem Access.of?_of_ne {symbol : Symbol} (h : symbol ≠ .mapSelect) (args : List Expr) :
    Access.of? symbol args = none := by
  cases symbol with
  | mapSelect => exact absurd rfl h
  | _ => rfl

namespace Expr

@[simp] theorem accesses_ident (span : Span) (id : Ident) : (ident span id).accesses = [] := rfl

@[simp] theorem accesses_literal (span : Span) (value : Literal) :
    (literal span value).accesses = [] := rfl

@[simp] theorem accesses_apply (span : Span) (symbol : Symbol) (args : List Expr) :
    (apply span symbol args).accesses =
      (Access.of? symbol args).toList ++ args.flatMap accesses :=
  Visitor.accessCollector_collects.exprs args _

@[simp] theorem accesses_quantified (span : Span) (quantifier : Quantifier)
    (binders : List Ident) (body : Expr) :
    (quantified span quantifier binders body).accesses = [] := rfl

end Expr

/-! ## Reads along paths -/

theorem Access.of?_eq_some_iff {symbol : Symbol} {args : List Expr} {access : Access} :
    Access.of? symbol args = some access ↔
      symbol = .mapSelect ∧ ∃ span id, args = [.ident span id, access.index] ∧
        id.decl = some access.base := by
  constructor
  · intro h
    unfold Access.of? at h
    split at h
    · obtain ⟨base, hdecl, rfl⟩ := Option.map_eq_some_iff.mp h
      exact ⟨rfl, _, _, rfl, hdecl⟩
    · cases h
  · intro h
    obtain ⟨hselect, span, id, hargs, hdecl⟩ := h
    rw [hselect, hargs, Access.of?, hdecl]
    rfl

namespace Expr

theorem readsAt_nil_iff {span : Span} {symbol : Symbol} {args : List Expr} {access : Access} :
    (apply span symbol args).ReadsAt [] access ↔ Access.of? symbol args = some access := by
  rw [Access.of?_eq_some_iff]
  constructor
  · intro h
    obtain ⟨-, span', span'', id, hat, hdecl⟩ := h
    cases hat
    exact ⟨rfl, span'', id, rfl, hdecl⟩
  · intro h
    obtain ⟨hselect, span', id, hargs, hdecl⟩ := h
    rw [hselect, hargs]
    exact ⟨outsideQuantifiers_nil _, span, span', id, rfl, hdecl⟩

theorem readsAt_cons_iff {span : Span} {symbol : Symbol} {args : List Expr} {i : Nat} {π : Path}
    {access : Access} : (apply span symbol args).ReadsAt (i :: π) access ↔
      ∃ arg, args[i]? = some arg ∧ arg.ReadsAt π access := by
  constructor
  · intro h
    obtain ⟨houtside, span', span'', id, hat, hdecl⟩ := h
    obtain ⟨arg, hi, hat⟩ := atAll?_eq_some_iff.mp hat
    exact ⟨arg, hi, (outsideQuantifiers_apply_cons_iff hi).mp houtside, span', span'', id, hat,
      hdecl⟩
  · intro h
    obtain ⟨arg, hi, houtside, span', span'', id, hat, hdecl⟩ := h
    exact ⟨(outsideQuantifiers_apply_cons_iff hi).mpr houtside, span', span'', id,
      atAll?_eq_some_iff.mpr ⟨arg, hi, hat⟩, hdecl⟩

/-- What the search along a path finds is what stands there: it looks at every path but those that
enter a quantifier. -/
theorem readAt?_eq_some_iff {expr : Expr} {π : Path} {access : Access} :
    expr.readAt? π = some access ↔ expr.ReadsAt π access := by
  induction π generalizing expr with
  | nil =>
    cases expr with
    | apply span symbol args => rw [readAt?, readsAt_nil_iff]
    | _ => simp [readAt?, ReadsAt]
  | cons i π ih =>
    cases expr with
    | apply span symbol args => simp only [readAt?, Option.bind_eq_some_iff, ih, readsAt_cons_iff]
    | quantified span quantifier binders body =>
      have hinside : ¬ (quantified span quantifier binders body).OutsideQuantifiers (i :: π) :=
        fun houtside => houtside [] List.nil_prefix (List.cons_ne_nil i π).symm rfl
      simp [readAt?, ReadsAt, hinside]
    | _ => simp [readAt?, ReadsAt]

/-- The collector reports what stands at the paths of an expression, one after the other. -/
theorem accesses_eq_filterMap (expr : Expr) :
    expr.accesses = expr.paths.filterMap expr.readAt? := by
  induction expr using Expr.induction with
  | ident span id => rfl
  | literal span value => rfl
  | apply span symbol args argsIH =>
    have hown : (apply span symbol args).readAt? [] = Access.of? symbol args := rfl
    rw [accesses_apply, flatMap_eq_filterMap_pathsAll_of argsIH, paths, List.filterMap_cons, hown,
      List.filterMap_map]
    cases Access.of? symbol args <;> rfl
  | quantified span quantifier binders body bodyIH =>
    -- the search finds nothing at a quantifier and nothing below it
    rw [accesses_quantified, eq_comm, List.filterMap_eq_nil_iff]
    intro π _
    cases π <;> rfl

end Expr

/-- The reads of a command are those of the expressions that it evaluates. -/
theorem Command.accesses_eq_flatMap (command : Command) :
    command.accesses = command.exprs.flatMap Expr.accesses :=
  Visitor.accessCollector_collects.fragment (.command command)

/-! ## All reads, in order -/

/-- The elements that a function is defined on stand against its values, one by one. -/
theorem forall₂_filterMap {α β : Type} (f : α → Option β) (as : List α) :
    List.Forall₂ (fun a b => f a = some b) (as.filter fun a => (f a).isSome) (as.filterMap f) := by
  induction as with
  | nil => exact .nil
  | cons a rest ih =>
    cases h : f a with
    | none => simpa [h] using ih
    | some b => simpa [h] using ih

/-- The reads of an expression stand one by one at increasing positions, which are all those outside
quantifiers at which a single index is read from an identifier with a handle. The reads of a command
are those of the expressions that it evaluates, in order; it does not matter which variables it
writes. -/
theorem accesses_stand_in_order (expr : Expr) (command : Command) :
    (∃ positions : List Path, positions.Pairwise (· < ·) ∧
      (∀ π, π ∈ positions ↔ ∃ access, expr.ReadsAt π access) ∧
      List.Forall₂ expr.ReadsAt positions expr.accesses) ∧
    command.accesses = command.exprs.flatMap Expr.accesses ∧
    ∀ f, (command.redirect f).accesses = command.accesses := by
  refine ⟨?_, command.accesses_eq_flatMap, ?_⟩
  · refine ⟨expr.paths.filter fun π => (expr.readAt? π).isSome,
      expr.paths_pairwise_lt.filter _, ?_, ?_⟩
    · intro π
      rw [List.mem_filter, Option.isSome_iff_exists]
      simp only [Expr.readAt?_eq_some_iff]
      refine and_iff_right_of_imp fun hread => ?_
      -- a read stands at a node, so its path is among those of the expression
      obtain ⟨access, -, _, _, _, hat, -⟩ := hread
      exact (expr.mem_paths_iff π).mpr (Option.isSome_of_mem hat)
    · rw [expr.accesses_eq_filterMap]
      exact (forall₂_filterMap expr.readAt? expr.paths).imp fun _ _ => Expr.readAt?_eq_some_iff.mp
  · intro f
    rw [Command.accesses_eq_flatMap, Command.exprs_redirect, Command.accesses_eq_flatMap]

/-- `M[M[p]] := M[M[q]]`: the index of the target comes first, and the cell that is written is not
read. -/
example :
    let p : Expr := .ident .synthetic ⟨"p", some ⟨2⟩⟩
    let q : Expr := .ident .synthetic ⟨"q", some ⟨3⟩⟩
    let read (index : Expr) : Expr :=
      .apply .synthetic .mapSelect [.ident .synthetic ⟨"M", some ⟨1⟩⟩, index]
    let target : Target := .cell .synthetic (.variable .synthetic ⟨"M", some ⟨1⟩⟩) [read p]
    (Command.mk .synthetic (.assign [(target, read (read q))])).accesses =
      [⟨⟨1⟩, p⟩, ⟨⟨1⟩, read q⟩, ⟨⟨1⟩, q⟩] := rfl

end Graft
