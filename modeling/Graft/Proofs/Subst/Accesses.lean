import Graft.Expr.Path
import Graft.Proofs.Subst.Scope
import Graft.Proofs.Traversal.Accesses
import Mathlib.Data.List.Basic

/-!
# Map reads of an instance

A substitution that turns identifiers into identifiers with handles, and neither makes nor unmakes a
map selection, keeps every read of an expression: the map is renamed and the index is instantiated
(`accesses_instantiate`). All of this concerns the expression outside its quantifiers alone, as reads
inside them are not reported.
-/

namespace Graft

namespace Subst

/-- The handle of the identifier that a handle is bound to, and the handle itself where it is bound to
none. -/
def renamedHandle (σ : Subst) (handle : Handle) : Handle :=
  (((σ.value? handle).bind Expr.ident?).bind Ident.decl).getD handle

/-- The read that takes the place of a read of the template. -/
def access (σ : Subst) (access : Access) : Access :=
  ⟨σ.renamedHandle access.base, σ.instantiateExpr access.index⟩

/-- Holds of a substitution that binds each identifier outside quantifiers to an identifier with a
handle, if it binds it at all, and each symbol there to a map selection exactly if it is one. -/
structure KeepsReads (σ : Subst) (template : Expr) : Prop where
  ident : ∀ span id, template.OutsideNode (.ident span id) → ∀ bound, σ.ident? id = some bound →
    ∃ id' handle, bound.ident? = some id' ∧ id'.decl = some handle
  symbol : ∀ span f args, template.OutsideNode (.apply span f args) →
    ∀ f', σ.function? f.name = some f' → (f' = .mapSelect ↔ f = .mapSelect)

variable {σ : Subst}

theorem KeepsReads.arg {span : Span} {f : Symbol} {args : List Expr} {arg : Expr}
    (h : σ.KeepsReads (.apply span f args)) (harg : arg ∈ args) : σ.KeepsReads arg where
  ident span' id hid :=
    h.ident span' id (Expr.outsideNode_apply_iff.mpr (.inr ⟨arg, harg, hid⟩))
  symbol span' f' args' hf' :=
    h.symbol span' f' args' (Expr.outsideNode_apply_iff.mpr (.inr ⟨arg, harg, hf'⟩))

theorem KeepsReads.rename_eq_mapSelect_iff {span : Span} {f : Symbol} {args : List Expr}
    (h : σ.KeepsReads (.apply span f args)) : σ.rename f = .mapSelect ↔ f = .mapSelect := by
  unfold rename
  cases hf : σ.function? f.name with
  | none => rfl
  | some f' => exact h.symbol span f args (.self _) f' hf

/-- A use of an identifier becomes a use of an identifier that has the renamed handle. -/
theorem KeepsReads.scopedExpr_ident {span : Span} {id : Ident}
    (h : σ.KeepsReads (.ident span id)) : ∃ span' id',
      σ.scopedExpr (.ident span id) = .ident span' id' ∧ id'.decl = id.decl.map σ.renamedHandle := by
  rw [scopedExpr]
  cases hbound : σ.ident? id with
  | none =>
    refine ⟨span, id, rfl, ?_⟩
    cases hdecl : id.decl with
    | none => rfl
    | some handle =>
      rw [ident?, hdecl, Option.bind_some] at hbound
      simp [renamedHandle, hbound]
  | some bound =>
    obtain ⟨id', handle', hident, hdecl'⟩ := h.ident span id (.self _) bound hbound
    obtain ⟨span', rfl⟩ := Expr.ident?_eq_some_iff.mp hident
    -- what is bound at all has a handle
    obtain ⟨handle, hdecl, hvalue⟩ := Option.bind_eq_some_iff.mp hbound
    refine ⟨span', id', rfl, ?_⟩
    rw [hdecl', hdecl, Option.map_some, renamedHandle, hvalue, Option.bind_some]
    simp [Expr.ident?, hdecl']

/-- An application makes a read by itself exactly if its instance does: only an identifier becomes an
identifier to read from, and only a map selection becomes one. -/
theorem KeepsReads.of?_scoped {span : Span} {f : Symbol} {args : List Expr}
    (h : σ.KeepsReads (.apply span f args)) :
    Access.of? (σ.rename f) (args.map σ.scopedExpr) = (Access.of? f args).map σ.access := by
  by_cases hselect : f = .mapSelect
  · rw [h.rename_eq_mapSelect_iff.mpr hselect, hselect]
    -- a read has a map and one index, and the number of arguments stays
    match args, h with
    | [], _ => rfl
    | [_], _ => simp [Access.of?]
    | _ :: _ :: _ :: _, _ => simp [Access.of?]
    | [map, index], h =>
      cases map with
      | ident span' id =>
        obtain ⟨span'', id', hmap, hdecl⟩ := (h.arg List.mem_cons_self).scopedExpr_ident
        rw [List.map_cons, List.map_singleton, hmap, Access.of?, Access.of?, hdecl, Option.map_map,
          Option.map_map]
        simp only [Function.comp_def, access, instantiateExpr_eq_scopedExpr]
      | _ =>
        -- what is no identifier does not become one
        rfl
  · have hrenamed : σ.rename f ≠ .mapSelect := fun heq => hselect (h.rename_eq_mapSelect_iff.mp heq)
    rw [Access.of?_of_ne hselect, Access.of?_of_ne hrenamed, Option.map_none]

theorem accesses_scopedExpr {template : Expr} (h : σ.KeepsReads template) :
    (σ.scopedExpr template).accesses = template.accesses.map σ.access := by
  induction template using Expr.induction with
  | ident span id =>
    obtain ⟨span', id', hident, -⟩ := h.scopedExpr_ident
    rw [hident]
    rfl
  | literal span value => rfl
  | apply span f args argsIH =>
    rw [scopedExpr, scopedExprs_eq_map, Expr.accesses_apply, Expr.accesses_apply, List.map_append,
      h.of?_scoped, Option.toList_map, List.flatMap_map, List.map_flatMap]
    congr 1
    exact List.flatMap_congr fun arg harg => argsIH arg harg (h.arg harg)
  | quantified span quantifier binders body bodyIH =>
    -- a quantifier stays one, and nothing is reported from inside it
    rfl

/-- The reads of an instance are those of the template, in the same order and number: each is from the
map that the substitution puts in the place of its map, at the instance of its index. -/
theorem accesses_instantiate {template : Expr} (h : σ.KeepsReads template) : ∃ woven,
    σ.instantiate (.expr template) = .ok (.expr woven) ∧
      woven.accesses = template.accesses.map σ.access :=
  ⟨σ.scopedExpr template, σ.instantiate_expr template, accesses_scopedExpr h⟩

/-- `M[K[p]] && (forall i :: M[i])`. -/
def nestedReads : Expr :=
  .apply ⟨0, 28⟩ (.binary .and)
    [.apply ⟨0, 7⟩ .mapSelect [.ident ⟨0, 1⟩ ⟨"M", some ⟨1⟩⟩,
      .apply ⟨2, 4⟩ .mapSelect [.ident ⟨2, 1⟩ ⟨"K", some ⟨2⟩⟩, .ident ⟨4, 1⟩ ⟨"p", some ⟨3⟩⟩]],
    .quantified ⟨11, 17⟩ .forall [⟨"i", some ⟨4⟩⟩] (.apply ⟨23, 4⟩ .mapSelect
      [.ident ⟨23, 1⟩ ⟨"M", some ⟨1⟩⟩, .ident ⟨25, 1⟩ ⟨"i", some ⟨4⟩⟩])]

/-- Renames `M` to `N` and `p` to `q`, binds `i` to `5`, and makes a disjunction of a conjunction. -/
def renamedReads : Subst :=
  .ofLists
    [(⟨1⟩, .ident ⟨40, 1⟩ ⟨"N", some ⟨5⟩⟩), (⟨3⟩, .ident ⟨44, 1⟩ ⟨"q", some ⟨6⟩⟩),
      (⟨4⟩, .literal ⟨50, 1⟩ (.int 5))]
    [("&&", .binary .or)]

/-- `N[K[q]] || (forall i :: N[i])` reads `N` at `K[q]`, and `K` at `q`. -/
theorem accesses_instantiate_nested :
    renamedReads.KeepsReads nestedReads ∧ ∃ woven,
      renamedReads.instantiate (.expr nestedReads) = .ok (.expr woven) ∧
        woven.accesses =
          [⟨⟨5⟩, .apply ⟨2, 4⟩ .mapSelect
              [.ident ⟨2, 1⟩ ⟨"K", some ⟨2⟩⟩, .ident ⟨44, 1⟩ ⟨"q", some ⟨6⟩⟩]⟩,
            ⟨⟨2⟩, .ident ⟨44, 1⟩ ⟨"q", some ⟨6⟩⟩⟩] := by
  have hkeeps : renamedReads.KeepsReads nestedReads := by
    constructor
    · intro span id hid bound hbound
      -- of `M`, `K` and `p` only the second is unbound
      simp only [nestedReads, Expr.outsideNode_apply_iff, Expr.outsideNode_ident_iff,
        Expr.outsideNode_quantified_iff, List.mem_cons, List.not_mem_nil, or_false, exists_eq_or_imp,
        exists_eq_left, reduceCtorEq, false_or, Expr.ident.injEq] at hid
      rcases hid with ⟨-, rfl⟩ | ⟨-, rfl⟩ | ⟨-, rfl⟩
      · cases hbound
        exact ⟨_, _, rfl, rfl⟩
      · cases hbound
      · cases hbound
        exact ⟨_, _, rfl, rfl⟩
    · intro span f args hf f' hrenamed
      simp only [nestedReads, Expr.outsideNode_apply_iff, Expr.outsideNode_ident_iff,
        Expr.outsideNode_quantified_iff, List.mem_cons, List.not_mem_nil, or_false, exists_eq_or_imp,
        exists_eq_left, reduceCtorEq, false_or, Expr.apply.injEq] at hf
      rcases hf with ⟨-, rfl, -⟩ | ⟨-, rfl, -⟩ | ⟨-, rfl, -⟩
      · cases hrenamed
        decide
      · cases hrenamed
      · cases hrenamed
  obtain ⟨woven, hwoven, haccesses⟩ := accesses_instantiate hkeeps
  exact ⟨hkeeps, woven, hwoven, haccesses⟩

end Subst

end Graft
