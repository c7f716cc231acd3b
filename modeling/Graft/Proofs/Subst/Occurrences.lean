import Graft.Proofs.Subst.Faults
import Graft.Proofs.Traversal.Identifiers

/-!
# Occurrences in an instance

The occurrences of an instance are those of the template in their order, each replaced by the
occurrences of what it is bound to (`identifiers_instantiate`). A written variable becomes another
one, so that exactly one occurrence stands in its place.
-/

namespace Graft

namespace Subst

/-- What stands in an instance for an occurrence of the template: the occurrences of what it is bound
to, or the occurrence itself. -/
def occurrences (σ : Subst) (id : Ident) : List Ident :=
  match σ.ident? id with
  | some bound => bound.identifiers
  | none => [id]

variable {σ : Subst}

/-! ## Expressions -/

theorem identifiers_scopedExpr {template : Expr} (h : σ.HidesNothingIn template) :
    (σ.scopedExpr template).identifiers = template.identifiers.flatMap σ.occurrences := by
  induction template using Expr.induction with
  | ident span id =>
    rw [scopedExpr, Expr.identifiers_ident, List.flatMap_singleton, occurrences]
    cases σ.ident? id with
    | none => rfl
    | some bound => rfl
  | literal span value => rfl
  | apply span symbol args argsIH =>
    rw [scopedExpr, scopedExprs_eq_map, Expr.identifiers_apply, Expr.identifiers_apply,
      List.flatMap_map, List.flatMap_assoc]
    exact List.flatMap_congr fun arg harg => argsIH arg harg (h.arg harg)
  | quantified span quantifier binders body bodyIH =>
    -- binders are no occurrences, and the body has the whole substitution in scope
    rw [scopedExpr, h.under_eq_self, Expr.identifiers_quantified, Expr.identifiers_quantified]
    exact bodyIH h.body

theorem identifiers_instantiateExprs {templates : List Expr}
    (h : ∀ template ∈ templates, σ.HidesNothingIn template) :
    (templates.map σ.instantiateExpr).flatMap Expr.identifiers =
      (templates.flatMap Expr.identifiers).flatMap σ.occurrences := by
  rw [List.flatMap_map, List.flatMap_assoc]
  refine List.flatMap_congr ?_
  intro template htemplate
  rw [instantiateExpr_eq_scopedExpr, identifiers_scopedExpr (h template htemplate)]

/-! ## Written variables -/

theorem occurrences_of_renames {id id' : Ident} (h : σ.Renames id id') : σ.occurrences id = [id'] := by
  unfold occurrences
  cases h with
  | inl hunbound => rw [hunbound.1, hunbound.2]
  | inr hbound =>
    obtain ⟨span, hident⟩ := hbound
    rw [hident]
    rfl

/-- What a list becomes part by part has the occurrences that stand for those of the parts. -/
theorem occurrences_of_forall₂ {α : Type} {R : α → α → Prop} {f : α → List Ident} {xs ys : List α}
    (h : List.Forall₂ R xs ys) (hf : ∀ x ∈ xs, ∀ y, R x y → f y = (f x).flatMap σ.occurrences) :
    ys.flatMap f = (xs.flatMap f).flatMap σ.occurrences := by
  induction h with
  | nil => rfl
  | @cons x y xs ys hfirst hrest ih =>
    rw [List.flatMap_cons, List.flatMap_cons, List.flatMap_append,
      hf x List.mem_cons_self y hfirst, ih fun z hz => hf z (List.mem_cons_of_mem _ hz)]

theorem occurrences_of_renames_all {ids ids' : List Ident} (h : List.Forall₂ σ.Renames ids ids') :
    ids' = ids.flatMap σ.occurrences := by
  have hsingle := occurrences_of_forall₂ (f := fun id => [id]) h fun id _ id' hrenames => by
    rw [List.flatMap_singleton, occurrences_of_renames hrenames]
  rwa [List.flatMap_singleton', List.flatMap_singleton'] at hsingle

/-! ## Targets and commands -/

theorem identifiers_of_target_becomes {target target' : Target}
    (hkept : ∀ index ∈ target.indices, σ.HidesNothingIn index) (h : target.Becomes σ target') :
    target'.identifiers = target.identifiers.flatMap σ.occurrences := by
  induction h with
  | «variable» span renames =>
    rw [Target.identifiers_variable, Target.identifiers_variable, List.flatMap_singleton,
      occurrences_of_renames renames]
  | cell span indices becomes ih =>
    -- the walk meets the base before the indices, so the two parts stay in order
    have hbase := ih fun index hindex => hkept index (List.mem_append_left _ hindex)
    have hindices := identifiers_instantiateExprs fun index hindex =>
      hkept index (List.mem_append_right _ hindex)
    rw [Target.identifiers_cell, Target.identifiers_cell, List.flatMap_append, hbase, hindices]

theorem identifiers_of_pair_becomes {pair pair' : Target × Expr}
    (hkept : ∀ expr ∈ pair.1.indices ++ [pair.2], σ.HidesNothingIn expr)
    (h : pair.1.Becomes σ pair'.1 ∧ pair'.2 = σ.instantiateExpr pair.2) :
    pair'.1.identifiers ++ pair'.2.identifiers =
      (pair.1.identifiers ++ pair.2.identifiers).flatMap σ.occurrences := by
  have htarget := identifiers_of_target_becomes
    (fun index hindex => hkept index (List.mem_append_left _ hindex)) h.1
  have hright := identifiers_scopedExpr (hkept pair.2 (List.mem_append_right _ List.mem_cons_self))
  rw [htarget, h.2, instantiateExpr_eq_scopedExpr, hright, List.flatMap_append]

theorem identifiers_of_command_becomes {command command' : Command}
    (hkept : ∀ expr ∈ command.exprs, σ.HidesNothingIn expr) (h : command.Becomes σ command') :
    command'.identifiers = command.identifiers.flatMap σ.occurrences := by
  obtain ⟨span, action⟩ := command
  obtain ⟨span', action'⟩ := command'
  cases h.action with
  | assert condition =>
    rw [Command.identifiers_assert, Command.identifiers_assert, instantiateExpr_eq_scopedExpr,
      identifiers_scopedExpr (hkept condition List.mem_cons_self)]
  | assume condition =>
    rw [Command.identifiers_assume, Command.identifiers_assume, instantiateExpr_eq_scopedExpr,
      identifiers_scopedExpr (hkept condition List.mem_cons_self)]
  | @assign pairs pairs' becomes =>
    rw [Command.identifiers_assign, Command.identifiers_assign]
    refine occurrences_of_forall₂ becomes ?_
    intro pair hpair pair'
    exact identifiers_of_pair_becomes fun expr hexpr =>
      hkept expr (List.mem_flatMap.mpr ⟨pair, hpair, hexpr⟩)
  | call callee decl inputs renames =>
    have hinputs : (inputs.map σ.instantiateExpr).flatMap Expr.identifiers = _ :=
      identifiers_instantiateExprs hkept
    rw [Command.identifiers_call, Command.identifiers_call, List.flatMap_append, hinputs,
      occurrences_of_renames_all renames]
  | havoc renames =>
    rw [Command.identifiers_havoc, Command.identifiers_havoc, occurrences_of_renames_all renames]

/-- The occurrences of an instance are, one after the other, those that stand for the occurrences of
the template, provided that no binder of the template is bound to something that is no identifier. -/
theorem identifiers_instantiate {fragment woven : Fragment}
    (hbinders : ∀ binder ∈ fragment.binders, ∀ bound, σ.ident? binder = some bound →
      bound.ident?.isSome = true)
    (hwoven : σ.instantiate fragment = .ok woven) :
    woven.identifiers = fragment.identifiers.flatMap σ.occurrences := by
  have hkept : ∀ expr ∈ fragment.exprs, σ.HidesNothingIn expr := fun expr hexpr binder hbinder =>
    hbinders binder (List.mem_flatMap.mpr ⟨expr, hexpr, hbinder⟩)
  cases (σ.answers_instantiate fragment).of_eq_ok hwoven with
  | expr whole =>
    rw [Fragment.identifiers_expr, Fragment.identifiers_expr, instantiateExpr_eq_scopedExpr]
    exact identifiers_scopedExpr (hkept whole List.mem_cons_self)
  | target becomes => exact identifiers_of_target_becomes hkept becomes
  | command becomes => exact identifiers_of_command_becomes hkept becomes
  | @commands all all' becomes =>
    rw [Fragment.identifiers_commands, Fragment.identifiers_commands]
    refine occurrences_of_forall₂ becomes ?_
    intro command hcommand command'
    exact identifiers_of_command_becomes fun expr hexpr =>
      hkept expr (List.mem_flatMap.mpr ⟨command, hcommand, hexpr⟩)

/-- `m[i] := forall x :: p(x, i)`. -/
def storeForall : Command :=
  ⟨⟨0, 26⟩, .assign [(.cell ⟨0, 4⟩ (.variable ⟨0, 1⟩ ⟨"m", some ⟨1⟩⟩)
      [.ident ⟨2, 1⟩ ⟨"i", some ⟨2⟩⟩],
    .quantified ⟨8, 18⟩ .forall [⟨"x", some ⟨3⟩⟩] (.apply ⟨20, 7⟩ (.call "p" none)
      [.ident ⟨22, 1⟩ ⟨"x", some ⟨3⟩⟩, .ident ⟨25, 1⟩ ⟨"i", some ⟨2⟩⟩]))]⟩

/-- Renames `m` to `n` and `x` to `z`, and binds `i` to `a + b`. -/
def renamedBinder : Subst :=
  .ofLists
    [(⟨1⟩, .ident ⟨40, 1⟩ ⟨"n", some ⟨4⟩⟩), (⟨3⟩, .ident ⟨44, 1⟩ ⟨"z", some ⟨5⟩⟩),
      (⟨2⟩, .apply ⟨50, 5⟩ (.binary .add)
        [.ident ⟨50, 1⟩ ⟨"a", some ⟨6⟩⟩, .ident ⟨54, 1⟩ ⟨"b", some ⟨7⟩⟩])] []

/-- `n[a + b] := forall z :: p(z, a + b)`: the occurrences `m`, `i`, `x`, `i` become `n`, then `a` and
`b`, then `z`, then `a` and `b` again. -/
theorem identifiers_instantiate_store : ∃ woven,
    renamedBinder.instantiate (.command storeForall) = .ok woven ∧
      woven.identifiers = [⟨"n", some ⟨4⟩⟩, ⟨"a", some ⟨6⟩⟩, ⟨"b", some ⟨7⟩⟩, ⟨"z", some ⟨5⟩⟩,
        ⟨"a", some ⟨6⟩⟩, ⟨"b", some ⟨7⟩⟩] := by
  have hbinders : ∀ binder ∈ (Fragment.command storeForall).binders, ∀ bound,
      renamedBinder.ident? binder = some bound → bound.ident?.isSome = true := by
    intro binder hbinder bound hbound
    cases List.mem_singleton.mp hbinder
    cases hbound
    rfl
  exact ⟨_, rfl, identifiers_instantiate hbinders rfl⟩

end Subst

end Graft
