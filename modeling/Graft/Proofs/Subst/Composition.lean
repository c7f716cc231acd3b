import Graft.Proofs.Subst.Scope
import Graft.Subst.Compose

/-!
# Two substitutions in one pass

Instantiating a template with one substitution and the result with another is the same as
instantiating it once with both (`instantiate_andThen`), provided that neither of them hides a binder
of the template. What the first one inserts is free to bind and to be hidden as it likes.
-/

namespace Graft

namespace Subst

variable {σ τ : Subst}

/-! ## Binders -/

theorem Renames.scopedBinder_eq {binder id : Ident} (h : σ.Renames binder id) :
    σ.scopedBinder binder = id := by
  unfold scopedBinder
  rcases h with ⟨hunbound, rfl⟩ | ⟨span, hbound⟩
  · rw [hunbound]
  · rw [hbound]

theorem under_eq_self_of_renames {binders : List Ident}
    (h : ∀ binder ∈ binders, ∃ id, σ.Renames binder id) : σ.under binders = σ :=
  under_eq_self fun binder hbinder => exists_renames_iff.mp (h binder hbinder)

/-- What both make of an identifier is what the second makes of what the first does. -/
theorem Renames.andThen {a b c : Ident} (hσ : σ.Renames a b) (hτ : τ.Renames b c) :
    (σ.andThen τ).Renames a c := by
  unfold Renames
  rcases hσ with ⟨hunbound, rfl⟩ | ⟨span, hbound⟩
  · rw [ident?_andThen_of_none hunbound]
    exact hτ
  · rw [ident?_andThen_of_some hbound, instantiateExpr_eq_scopedExpr, scopedExpr]
    right
    rcases hτ with ⟨hunbound', rfl⟩ | ⟨span', hbound'⟩
    · exact ⟨span, by rw [hunbound', Option.getD_none]⟩
    · exact ⟨span', by rw [hbound', Option.getD_some]⟩

/-! ## Templates -/

theorem scopedExpr_ident_andThen (span : Span) (id : Ident) :
    τ.scopedExpr (σ.scopedExpr (.ident span id)) = (σ.andThen τ).scopedExpr (.ident span id) := by
  cases hbound : σ.ident? id with
  | none => simp only [scopedExpr, hbound, ident?_andThen_of_none hbound, Option.getD_none]
  | some bound =>
    rw [scopedExpr, scopedExpr, hbound, ident?_andThen_of_some hbound,
      instantiateExpr_eq_scopedExpr, Option.getD_some, Option.getD_some]

/-- Neither substitution hides a binder of the template, so that both are in scope as a whole wherever
the first one inserts something. -/
theorem scopedExpr_andThen {template : Expr}
    (hbinders : ∀ binder ∈ template.binders, ∃ id id', σ.Renames binder id ∧ τ.Renames id id') :
    τ.scopedExpr (σ.scopedExpr template) = (σ.andThen τ).scopedExpr template := by
  induction template using Expr.induction with
  | ident span id => exact scopedExpr_ident_andThen span id
  | literal span value => rfl
  | apply span symbol args argsIH =>
    have hargs : ∀ arg ∈ args, τ.scopedExpr (σ.scopedExpr arg) = (σ.andThen τ).scopedExpr arg := by
      intro arg harg
      refine argsIH arg harg ?_
      intro binder hbinder
      exact hbinders binder (Expr.binders_subset_of_mem harg hbinder)
    rw [scopedExpr, scopedExpr, scopedExpr, rename_andThen, scopedExprs_eq_map, scopedExprs_eq_map,
      scopedExprs_eq_map, List.map_map]
    exact congrArg (Expr.apply span _) (List.map_congr_left hargs)
  | quantified span quantifier binders body bodyIH =>
    have hown : ∀ binder ∈ binders, ∃ id id', σ.Renames binder id ∧ τ.Renames id id' :=
      fun binder hbinder => hbinders binder (List.mem_append_left _ hbinder)
    have hbody := bodyIH fun binder hbinder => hbinders binder (List.mem_append_right _ hbinder)
    have hσ : σ.under binders = σ := by
      refine under_eq_self_of_renames ?_
      intro binder hbinder
      obtain ⟨id, id', hid, -⟩ := hown binder hbinder
      exact ⟨id, hid⟩
    have hτ : τ.under (binders.map σ.scopedBinder) = τ := by
      refine under_eq_self_of_renames ?_
      intro renamed hrenamed
      obtain ⟨binder, hbinder, rfl⟩ := List.mem_map.mp hrenamed
      obtain ⟨id, id', hid, hid'⟩ := hown binder hbinder
      rw [hid.scopedBinder_eq]
      exact ⟨id', hid'⟩
    have hboth : (σ.andThen τ).under binders = σ.andThen τ := by
      refine under_eq_self_of_renames ?_
      intro binder hbinder
      obtain ⟨id, id', hid, hid'⟩ := hown binder hbinder
      exact ⟨id', hid.andThen hid'⟩
    have hmap : (binders.map σ.scopedBinder).map τ.scopedBinder =
        binders.map (σ.andThen τ).scopedBinder := by
      rw [List.map_map]
      refine List.map_congr_left ?_
      intro binder hbinder
      obtain ⟨id, id', hid, hid'⟩ := hown binder hbinder
      rw [Function.comp_apply, hid.scopedBinder_eq, hid'.scopedBinder_eq,
        (hid.andThen hid').scopedBinder_eq]
    rw [scopedExpr, scopedExpr, scopedExpr, hσ, hτ, hboth, hmap, hbody]

/-- Instantiating a template with `σ` and what comes of it with `τ` is instantiating it with both at
once, spans included, if every binder of the template stays an identifier under the two. What `σ`
inserts may have quantifiers of its own, under which `τ` renames and hides as it does anywhere. -/
theorem instantiate_andThen {template : Expr}
    (hbinders : ∀ binder ∈ template.binders, ∃ id id', σ.Renames binder id ∧ τ.Renames id id') :
    (∃ once twice, σ.instantiate (.expr template) = .ok (.expr once) ∧
      τ.instantiate (.expr once) = .ok (.expr twice) ∧
      (σ.andThen τ).instantiate (.expr template) = .ok (.expr twice)) ∧
    (∀ handle, (σ.andThen τ).value? handle =
      ((σ.value? handle).map τ.instantiateExpr).or (τ.value? handle)) ∧
    (∀ name, (σ.andThen τ).function? name =
      ((σ.function? name).map τ.rename).or (τ.function? name)) := by
  refine ⟨⟨σ.scopedExpr template, τ.scopedExpr (σ.scopedExpr template), ?_, ?_, ?_⟩,
    value?_andThen σ τ, function?_andThen σ τ⟩
  · exact σ.instantiate_expr template
  · exact τ.instantiate_expr (σ.scopedExpr template)
  · rw [instantiate_expr, scopedExpr_andThen hbinders]

/-- `forall x, y :: f(y, z)`. -/
def quantifiedCall : Expr :=
  .quantified .synthetic .forall [⟨"x", some ⟨1⟩⟩, ⟨"y", some ⟨2⟩⟩]
    (.apply .synthetic (.call "f" (some ⟨9⟩))
      [.ident .synthetic ⟨"y", some ⟨2⟩⟩, .ident .synthetic ⟨"z", some ⟨3⟩⟩])

/-- Renames `x` to `u` and `f` to `g`, and puts `exists w, k :: g(w, k)` in the place of `z`. -/
def firstRenaming : Subst :=
  .ofLists
    [(⟨1⟩, .ident ⟨4, 1⟩ ⟨"u", some ⟨4⟩⟩),
      (⟨3⟩, .quantified ⟨9, 22⟩ .exists [⟨"w", some ⟨5⟩⟩, ⟨"k", some ⟨6⟩⟩]
        (.apply ⟨24, 7⟩ (.call "g" none)
          [.ident ⟨26, 1⟩ ⟨"w", some ⟨5⟩⟩, .ident ⟨29, 1⟩ ⟨"k", some ⟨6⟩⟩]))]
    [("f", .call "g" (some ⟨8⟩))]

/-- Renames `u` to `v`, `y` to `j`, `k` to `i` and `g` to a sum, and binds `w` to a number. What it has
for `x` and `f` comes too late. -/
def secondRenaming : Subst :=
  .ofLists
    [(⟨1⟩, .literal .synthetic (.int 3)), (⟨2⟩, .ident ⟨2, 1⟩ ⟨"j", some ⟨11⟩⟩),
      (⟨4⟩, .ident ⟨7, 1⟩ ⟨"v", some ⟨7⟩⟩), (⟨5⟩, .literal .synthetic (.int 0)),
      (⟨6⟩, .ident ⟨8, 1⟩ ⟨"i", some ⟨10⟩⟩)]
    [("f", .unary .neg), ("g", .binary .add)]

/-- `forall v, j :: j + (exists w, i :: w + i)`, in two passes and in one. -/
theorem instantiate_andThen_inserted : ∃ once twice,
    firstRenaming.instantiate (.expr quantifiedCall) = .ok (.expr once) ∧
    secondRenaming.instantiate (.expr once) = .ok (.expr twice) ∧
    (firstRenaming.andThen secondRenaming).instantiate (.expr quantifiedCall) = .ok (.expr twice) ∧
    twice = .quantified .synthetic .forall [⟨"v", some ⟨7⟩⟩, ⟨"j", some ⟨11⟩⟩]
      (.apply .synthetic (.binary .add) [.ident ⟨2, 1⟩ ⟨"j", some ⟨11⟩⟩,
        .quantified ⟨9, 22⟩ .exists [⟨"w", some ⟨5⟩⟩, ⟨"i", some ⟨10⟩⟩]
          (.apply ⟨24, 7⟩ (.binary .add)
            [.ident ⟨26, 1⟩ ⟨"w", some ⟨5⟩⟩, .ident ⟨8, 1⟩ ⟨"i", some ⟨10⟩⟩])]) := by
  have hbinders : ∀ binder ∈ quantifiedCall.binders, ∃ id id',
      firstRenaming.Renames binder id ∧ secondRenaming.Renames id id' := by
    intro binder hbinder
    have hcases : binder = ⟨"x", some ⟨1⟩⟩ ∨ binder = ⟨"y", some ⟨2⟩⟩ := by
      simpa [quantifiedCall] using hbinder
    rcases hcases with rfl | rfl
    · exact ⟨_, _, .inr ⟨_, rfl⟩, .inr ⟨_, rfl⟩⟩
    · exact ⟨_, _, .inl ⟨rfl, rfl⟩, .inr ⟨_, rfl⟩⟩
  obtain ⟨⟨once, twice, honce, htwice, hboth⟩, -⟩ := instantiate_andThen hbinders
  refine ⟨once, twice, honce, htwice, hboth, ?_⟩
  cases honce
  cases htwice
  rfl

end Subst

end Graft
