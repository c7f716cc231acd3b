import Graft.Proofs.Subst.Scope
import Graft.Subst.Similar

/-!
# Similar substitutions in a template

An identifier is told by its handle wherever it is used, but by its name as well where it is bound.
So similar substitutions give similar instances of a template unless one of its binders is renamed to
two names of one handle (`instances_similar_iff`), and only then do they not.
-/

namespace Graft

namespace Subst

variable {σ τ : Subst}

/-! ## Under binders -/

theorem rel_filter_ident? {a b : Option Expr}
    (h : Option.Rel (fun expr expr' => expr.similar expr' = true) a b) :
    Option.Rel (fun expr expr' => expr.similar expr' = true)
      (a.filter (·.ident?.isSome)) (b.filter (·.ident?.isSome)) := by
  cases h with
  | none => exact .none
  | @some expr expr' hsimilar =>
    have hident : expr.ident?.isSome = expr'.ident?.isSome := Expr.isSome_ident?_of_similar hsimilar
    rw [Option.filter_some, Option.filter_some, ← hident]
    split
    · exact .some hsimilar
    · exact .none

theorem Similar.under (h : σ.Similar τ) (binders : List Ident) :
    (σ.under binders).Similar (τ.under binders) := by
  constructor
  · rw [functions_under, functions_under, h.functions]
  · intro handle
    rw [value?_under, value?_under]
    split
    · exact rel_filter_ident? (h.values handle)
    · exact h.values handle

/-! ## Instances -/

theorem Similar.ident? (h : σ.Similar τ) (id : Ident) :
    Option.Rel (fun expr expr' => expr.similar expr' = true) (σ.ident? id) (τ.ident? id) := by
  unfold Subst.ident?
  cases id.decl with
  | none => exact .none
  | some handle => exact h.values handle

theorem Similar.rename (h : σ.Similar τ) : σ.rename = τ.rename := by
  funext symbol
  rw [Subst.rename, Subst.rename, function?, function?, h.functions]

theorem Similar.scopedExpr_ident (h : σ.Similar τ) {id id' : Ident} (hsame : id.same id' = true)
    (span span' : Span) :
    (σ.scopedExpr (.ident span id)).similar (τ.scopedExpr (.ident span' id')) = true := by
  have hident : τ.ident? id' = τ.ident? id := by
    rw [Subst.ident?, Subst.ident?, Ident.decl_eq_of_same hsame]
  rw [scopedExpr, scopedExpr, hident]
  generalize hσ : σ.ident? id = bound
  generalize hτ : τ.ident? id = bound'
  have hrel := h.ident? id
  rw [hσ, hτ] at hrel
  cases hrel with
  | none => exact hsame
  | some hsimilar => exact hsimilar

theorem similars_scopedExprs_iff_of {templates : List Expr}
    (h : ∀ template ∈ templates, ∀ template', template.similar template' = true →
      ((σ.scopedExpr template).similar (τ.scopedExpr template') = true ↔
        ∀ binder ∈ template.binders, σ.scopedBinder binder = τ.scopedBinder binder)) :
    ∀ templates', Expr.similars templates templates' = true →
      (Expr.similars (σ.scopedExprs templates) (τ.scopedExprs templates') = true ↔
        ∀ binder ∈ Expr.bindersAll templates, σ.scopedBinder binder = τ.scopedBinder binder) := by
  induction templates with
  | nil =>
    intro templates' hsimilar
    cases templates' with
    | nil => simp [scopedExprs, Expr.similars, Expr.bindersAll]
    | cons template' rest' => cases hsimilar
  | cons template rest ih =>
    intro templates' hsimilar
    cases templates' with
    | nil => cases hsimilar
    | cons template' rest' =>
      rw [Expr.similars, Bool.and_eq_true] at hsimilar
      have hfirst := h template List.mem_cons_self template' hsimilar.1
      have hrest := ih (fun t ht => h t (List.mem_cons_of_mem _ ht)) rest' hsimilar.2
      rw [scopedExprs, scopedExprs, Expr.similars, Bool.and_eq_true, hfirst, hrest, Expr.bindersAll,
        List.forall_mem_append]

/-- Similar substitutions give similar instances of similar templates exactly when they rename each
binder to the same identifier. -/
theorem similar_scopedExpr_iff {template : Expr} : ∀ {σ τ : Subst} {template' : Expr},
    σ.Similar τ → template.similar template' = true →
      ((σ.scopedExpr template).similar (τ.scopedExpr template') = true ↔
        ∀ binder ∈ template.binders, σ.scopedBinder binder = τ.scopedBinder binder) := by
  induction template using Expr.induction with
  | ident span id =>
    intro σ τ template' h hsimilar
    obtain ⟨span', id', rfl, hsame⟩ := Expr.similar_ident_iff.mp hsimilar
    simp [h.scopedExpr_ident hsame]
  | literal span value =>
    intro σ τ template' h hsimilar
    obtain ⟨span', rfl⟩ := Expr.similar_literal_iff.mp hsimilar
    simp [scopedExpr, Expr.similar]
  | apply span symbol args argsIH =>
    intro σ τ template' h hsimilar
    obtain ⟨span', args', rfl, hargs⟩ := Expr.similar_apply_iff.mp hsimilar
    have hinstances := similars_scopedExprs_iff_of (σ := σ) (τ := τ)
      (fun arg harg arg' hsim => argsIH arg harg h hsim) args' hargs
    rw [scopedExpr, scopedExpr, Expr.similar, h.rename, beq_self_eq_true, Bool.true_and, hinstances]
    rfl
  | quantified span quantifier binders body bodyIH =>
    intro σ τ template' h hsimilar
    obtain ⟨span', body', rfl, hbody⟩ := Expr.similar_quantified_iff.mp hsimilar
    -- in scope of the body both substitutions have forgotten the same handles
    have hinstances := bodyIH (h.under binders) hbody
    rw [scopedBinder_under, scopedBinder_under] at hinstances
    rw [scopedExpr, scopedExpr, Expr.similar, beq_self_eq_true, Bool.true_and, Bool.and_eq_true,
      beq_iff_eq, List.map_inj_left, hinstances, Expr.binders_quantified, List.forall_mem_append]

/-! ## Renamed binders -/

/-- What a binder is renamed to by similar substitutions has one handle, so that only the names can
differ. -/
theorem Similar.scopedBinder_eq_iff (h : σ.Similar τ) {binder : Ident} :
    σ.scopedBinder binder = τ.scopedBinder binder ↔
      ∀ span span' id id', σ.ident? binder = some (.ident span id) →
        τ.ident? binder = some (.ident span' id') → id.name = id'.name := by
  unfold scopedBinder
  generalize hσ : σ.ident? binder = bound
  generalize hτ : τ.ident? binder = bound'
  have hrel := h.ident? binder
  rw [hσ, hτ] at hrel
  cases hrel with
  | none => simp
  | @some expr expr' hsimilar =>
    -- only identifiers rename; anything else leaves the binder as it is on both sides
    cases expr with
    | ident span id =>
      obtain ⟨span', id', rfl, hsame⟩ := Expr.similar_ident_iff.mp hsimilar
      constructor
      · intro heq _ _ _ _ hid hid'
        cases hid
        cases hid'
        exact congrArg Ident.name heq
      · intro hnames
        exact Ident.eq_of_same hsame fun _ _ => hnames span span' id id' rfl rfl
    | literal span value =>
      obtain ⟨span', rfl⟩ := Expr.similar_literal_iff.mp hsimilar
      simp
    | apply span symbol args =>
      obtain ⟨span', args', rfl, -⟩ := Expr.similar_apply_iff.mp hsimilar
      simp
    | quantified span quantifier binders body =>
      obtain ⟨span', body', rfl, -⟩ := Expr.similar_quantified_iff.mp hsimilar
      simp

/-- Which of several similar captures is stored shows in an instance only through the binders that
are renamed to it, and there only through its name. -/
theorem instances_similar_iff (h : σ.Similar τ) (template : Expr) :
    ∃ woven woven', σ.instantiate (.expr template) = .ok (.expr woven) ∧
      τ.instantiate (.expr template) = .ok (.expr woven') ∧
      (woven.similar woven' = true ↔
        ∀ binder ∈ template.binders, ∀ span span' id id',
          σ.ident? binder = some (.ident span id) → τ.ident? binder = some (.ident span' id') →
            id.name = id'.name) := by
  refine ⟨_, _, instantiate_expr σ template, instantiate_expr τ template, ?_⟩
  rw [similar_scopedExpr_iff h (Expr.similar_refl template)]
  exact forall₂_congr fun binder _ => h.scopedBinder_eq_iff

/-- Binds `1` to `x#8` and `2` to `w#7`. -/
def twoNames (x w : String) : Subst :=
  .ofLists [(⟨1⟩, .ident .synthetic ⟨x, some ⟨8⟩⟩), (⟨2⟩, .ident .synthetic ⟨w, some ⟨7⟩⟩)] []

theorem twoNames_similar (x x' w w' : String) : (twoNames x w).Similar (twoNames x' w') :=
  similar_iff_canon_eq.mpr rfl

/-- `forall x :: x == w`. -/
def allEqual (x w : Ident) : Expr :=
  .quantified .synthetic .forall [x]
    (.apply .synthetic (.binary .eq) [.ident .synthetic x, .ident .synthetic w])

/-- Either way the binder is renamed to `i`. What it is compared with is told by its handle. -/
theorem instances_similar_iff_use :
    (twoNames "i" "a").Similar (twoNames "i" "b") ∧ ∃ woven woven',
      (twoNames "i" "a").instantiate (.expr (allEqual ⟨"x", some ⟨1⟩⟩ ⟨"w", some ⟨2⟩⟩)) =
        .ok (.expr woven) ∧
      (twoNames "i" "b").instantiate (.expr (allEqual ⟨"x", some ⟨1⟩⟩ ⟨"w", some ⟨2⟩⟩)) =
        .ok (.expr woven') ∧
      woven.similar woven' = true := by
  have hsimilar := twoNames_similar "i" "i" "a" "b"
  obtain ⟨woven, woven', hwoven, hwoven', hiff⟩ :=
    instances_similar_iff hsimilar (allEqual ⟨"x", some ⟨1⟩⟩ ⟨"w", some ⟨2⟩⟩)
  have hnames : woven.similar woven' = true := by
    refine hiff.mpr ?_
    intro binder hbinder span span' id id' hid hid'
    obtain rfl := List.mem_singleton.mp hbinder
    cases hid
    cases hid'
    rfl
  exact ⟨hsimilar, woven, woven', hwoven, hwoven', hnames⟩

/-- Whether a binder is renamed to `a#7` or to `b#7` does show. -/
theorem not_forall_instances_similar :
    ¬ ∀ (σ τ : Subst) (template woven woven' : Expr), σ.Similar τ →
      σ.instantiate (.expr template) = .ok (.expr woven) →
      τ.instantiate (.expr template) = .ok (.expr woven') → woven.similar woven' = true := by
  intro hall
  have hsimilar := hall _ _ (allEqual ⟨"w", some ⟨2⟩⟩ ⟨"x", some ⟨1⟩⟩) _ _
    (twoNames_similar "i" "i" "a" "b") rfl rfl
  cases hsimilar

end Subst

end Graft
