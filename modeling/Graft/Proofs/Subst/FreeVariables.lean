import Graft.Expr.Place
import Graft.Proofs.Subst.Scope
import Graft.Proofs.Traversal.FreeHandles

/-!
# Free handles of an instance

What an instance uses free comes from what the template uses free: each free handle of the template
brings the free handles of what stands for it. Under a quantifier a handle that is bound there brings
only handles that the quantifier still binds after it is renamed. In the other direction a renamed
binder may capture what is inserted under it; where none does, nothing is lost (`instance_freeDecls`).
-/

namespace Graft

namespace Subst

variable {σ : Subst} {binders : List Ident} {d handle : Handle}

/-! ## What stands for a handle -/

theorem mem_freeDecls_scopedExpr_ident {span : Span} {id : Ident} :
    handle ∈ (σ.scopedExpr (.ident span id)).freeDecls ↔
      ∃ d, id.decl = some d ∧ handle ∈ (σ.image d).freeDecls := by
  rw [scopedExpr, ident?]
  cases hdecl : id.decl with
  | none => simp [hdecl]
  | some d =>
    rw [Option.bind_some]
    simp only [image, Option.some.injEq, exists_eq_left']
    cases σ.value? d with
    | none => simp [hdecl]
    | some bound => rfl

theorem image_under_of_not_mem (hd : some d ∉ binders.map Ident.decl) :
    (σ.under binders).image d = σ.image d := by
  rw [image, value?_under, if_neg hd, image]

/-- Under its binder a handle stands for the identifier that the binder becomes. -/
theorem mem_map_scopedBinder_of_mem_image_under (hd : some d ∈ binders.map Ident.decl)
    (hfree : handle ∈ ((σ.under binders).image d).freeDecls) :
    some handle ∈ (binders.map σ.scopedBinder).map Ident.decl := by
  obtain ⟨binder, hbinder, hdecl⟩ := List.mem_map.mp hd
  have hbecomes : (σ.scopedBinder binder).decl = some handle := by
    rw [image, value?_under, if_pos hd] at hfree
    cases hvalue : σ.value? d with
    | none =>
      have hunbound : σ.ident? binder = none := by rw [ident?, hdecl, Option.bind_some, hvalue]
      rw [hvalue] at hfree
      rw [scopedBinder_of_none hunbound, hdecl]
      exact Expr.mem_freeDecls_ident.mp hfree
    | some bound =>
      rw [scopedBinder_of_value? hdecl hvalue]
      rw [hvalue] at hfree
      cases bound with
      | ident span id => exact Expr.mem_freeDecls_ident.mp hfree
      -- anything else is hidden in the body, and the binder keeps its handle
      | _ => exact hdecl.trans (Expr.mem_freeDecls_ident.mp hfree)
  exact List.mem_map.mpr ⟨_, List.mem_map.mpr ⟨binder, hbinder, rfl⟩, hbecomes⟩

/-! ## From the instance to the template -/

/-- A handle that an instance uses free stands, in one way or another, for one that the template uses
free. -/
theorem exists_mem_freeDecls_of_scopedExpr {template : Expr} : ∀ {σ : Subst},
    handle ∈ (σ.scopedExpr template).freeDecls →
      ∃ d ∈ template.freeDecls, handle ∈ (σ.image d).freeDecls := by
  induction template using Expr.induction with
  | ident span id =>
    intro σ hfree
    obtain ⟨d, hdecl, himage⟩ := mem_freeDecls_scopedExpr_ident.mp hfree
    exact ⟨d, Expr.mem_freeDecls_ident.mpr hdecl, himage⟩
  | literal span value =>
    intro σ hfree
    exact absurd hfree Expr.not_mem_freeDecls_literal
  | apply span symbol args argsIH =>
    intro σ hfree
    rw [scopedExpr, scopedExprs_eq_map, Expr.mem_freeDecls_apply] at hfree
    obtain ⟨_, hmem, hfree⟩ := hfree
    obtain ⟨arg, harg, rfl⟩ := List.mem_map.mp hmem
    obtain ⟨d, hd, himage⟩ := argsIH arg harg hfree
    exact ⟨d, Expr.mem_freeDecls_apply.mpr ⟨arg, harg, hd⟩, himage⟩
  | quantified span quantifier binders body bodyIH =>
    intro σ hfree
    rw [scopedExpr, Expr.mem_freeDecls_quantified] at hfree
    obtain ⟨hfree, hnot⟩ := hfree
    obtain ⟨d, hd, himage⟩ := bodyIH hfree
    -- a handle that the quantifier binds would bring one that is not free outside
    have hfreed : some d ∉ binders.map Ident.decl := fun hbound =>
      hnot (mem_map_scopedBinder_of_mem_image_under hbound himage)
    rw [image_under_of_not_mem hfreed] at himage
    exact ⟨d, Expr.mem_freeDecls_quantified.mpr ⟨hd, hfreed⟩, himage⟩

/-! ## From the template to the instance -/

/-- A handle is free in the instance if it stands for a free one of the template and no binder of the
template becomes it. -/
theorem mem_freeDecls_scopedExpr {template : Expr} : ∀ {σ : Subst},
    (∀ binder ∈ template.binders, (σ.scopedBinder binder).decl ≠ some handle) →
    d ∈ template.freeDecls → handle ∈ (σ.image d).freeDecls →
      handle ∈ (σ.scopedExpr template).freeDecls := by
  induction template using Expr.induction with
  | ident span id =>
    intro σ _ hd himage
    exact mem_freeDecls_scopedExpr_ident.mpr ⟨d, Expr.mem_freeDecls_ident.mp hd, himage⟩
  | literal span value =>
    intro σ _ hd
    exact absurd hd Expr.not_mem_freeDecls_literal
  | apply span symbol args argsIH =>
    intro σ hbinders hd himage
    obtain ⟨arg, harg, hd⟩ := Expr.mem_freeDecls_apply.mp hd
    have harg' : handle ∈ (σ.scopedExpr arg).freeDecls := by
      refine argsIH arg harg ?_ hd himage
      intro binder hbinder
      exact hbinders binder (Expr.binders_subset_of_mem harg hbinder)
    rw [scopedExpr, scopedExprs_eq_map, Expr.mem_freeDecls_apply]
    exact ⟨_, List.mem_map.mpr ⟨arg, harg, rfl⟩, harg'⟩
  | quantified span quantifier binders body bodyIH =>
    intro σ hbinders hd himage
    obtain ⟨hd, hfreed⟩ := Expr.mem_freeDecls_quantified.mp hd
    have hbody : handle ∈ ((σ.under binders).scopedExpr body).freeDecls := by
      refine bodyIH ?_ hd ?_
      · intro binder hbinder
        rw [scopedBinder_under]
        exact hbinders binder (List.mem_append_right _ hbinder)
      · rw [image_under_of_not_mem hfreed]
        exact himage
    rw [scopedExpr, Expr.mem_freeDecls_quantified]
    refine ⟨hbody, ?_⟩
    -- the quantifier itself captures it only if one of its binders becomes it
    intro hrebuilt
    obtain ⟨_, hmem, hdecl⟩ := List.mem_map.mp hrebuilt
    obtain ⟨binder, hbinder, rfl⟩ := List.mem_map.mp hmem
    exact hbinders binder (List.mem_append_left _ hbinder) hdecl

/-! ## Binders of the instance -/

/-- A binder is renamed alike wherever in the template it stands. -/
theorem bindsAt_scopedExpr {template : Expr} {π : Path} {span : Span} {quantifier : Quantifier}
    {body : Expr} (hnode : template.at? π = some (.quantified span quantifier binders body))
    (hmem : some handle ∈ (binders.map σ.scopedBinder).map Ident.decl) :
    (σ.scopedExpr template).BindsAt π handle := by
  have hunder : ∀ (τ : Subst) (binders : List Ident), τ.scopedBinder = σ.scopedBinder →
      (τ.under binders).scopedBinder = σ.scopedBinder :=
    fun τ binders hτ => (scopedBinder_under binders τ).trans hτ
  obtain ⟨τ, hτ, hat⟩ := exists_at?_scopedExpr_of hunder hnode σ rfl
  rw [scopedExpr, hτ] at hat
  exact ⟨span, quantifier, _, _, hat, hmem⟩

/-- Instantiating makes no bound handle free and brings no handle from elsewhere: each free handle of
an instance is free in what stands for some free handle of the template. All of these are free in the
instance, unless one of them is the handle of a binder that a quantifier of the template has in the
instance. -/
theorem instance_freeDecls (σ : Subst) (template : Expr) :
    ∃ woven, σ.instantiate (.expr template) = .ok (.expr woven) ∧
      (∀ handle ∈ woven.freeDecls,
        ∃ d ∈ template.freeDecls, handle ∈ (σ.image d).freeDecls) ∧
      ((∀ π node, template.at? π = some node → node.kind = .quantifier →
          ∀ d ∈ template.freeDecls, ∀ handle ∈ (σ.image d).freeDecls, ¬ woven.BindsAt π handle) →
        ∀ handle, handle ∈ woven.freeDecls ↔
          ∃ d ∈ template.freeDecls, handle ∈ (σ.image d).freeDecls) := by
  refine ⟨σ.scopedExpr template, σ.instantiate_expr template, ?_, ?_⟩
  · intro handle hfree
    exact exists_mem_freeDecls_of_scopedExpr hfree
  · intro hcapture handle
    constructor
    · exact exists_mem_freeDecls_of_scopedExpr
    · intro h
      obtain ⟨d, hd, himage⟩ := h
      refine mem_freeDecls_scopedExpr ?_ hd himage
      intro binder hbinder hdecl
      obtain ⟨π, span, quantifier, binders, body, hnode, hmem⟩ := Expr.mem_binders_iff.mp hbinder
      refine hcapture π _ hnode rfl d hd handle himage (bindsAt_scopedExpr hnode ?_)
      exact List.mem_map.mpr ⟨_, List.mem_map.mpr ⟨binder, hmem, rfl⟩, hdecl⟩

/-- `forall x :: p(x, y)`. -/
def boundAndFree : Expr :=
  .quantified .synthetic .forall [⟨"x", some ⟨1⟩⟩]
    (.apply .synthetic (.call "p" (some ⟨9⟩))
      [.ident .synthetic ⟨"x", some ⟨1⟩⟩, .ident .synthetic ⟨"y", some ⟨2⟩⟩])

/-- Binds `x` to `7` and `y` to `exists k :: k < z`. -/
def hidingAndInserting : Subst :=
  .ofLists
    [(⟨1⟩, .literal .synthetic (.int 7)),
      (⟨2⟩, .quantified .synthetic .exists [⟨"k", some ⟨3⟩⟩]
        (.apply .synthetic (.binary .lt)
          [.ident .synthetic ⟨"k", some ⟨3⟩⟩, .ident .synthetic ⟨"z", some ⟨4⟩⟩]))] []

/-- In `forall x :: p(x, exists k :: k < z)` nothing but `z` is free. -/
theorem instance_freeDecls_inserted :
    ∃ woven, hidingAndInserting.instantiate (.expr boundAndFree) = .ok (.expr woven) ∧
      woven.freeDecls = {⟨4⟩} := by
  have htemplate : boundAndFree.freeDecls = {⟨2⟩} := rfl
  have himage : (hidingAndInserting.image ⟨2⟩).freeDecls = {⟨4⟩} := rfl
  have hunion : ∀ handle, (∃ d ∈ boundAndFree.freeDecls,
      handle ∈ (hidingAndInserting.image d).freeDecls) ↔ handle = ⟨4⟩ := by
    intro handle
    simp [htemplate, himage, eq_comm (a := handle)]
  obtain ⟨woven, hwoven, -, hequal⟩ := instance_freeDecls hidingAndInserting boundAndFree
  have hfree : ∀ handle, handle ∈ woven.freeDecls ↔ handle = ⟨4⟩ := by
    intro handle
    rw [← hunion]
    refine hequal ?_ handle
    intro π node _ _ d hd bound hbound hbinds
    obtain ⟨_, _, binders, _, hat, hmem⟩ := hbinds
    obtain ⟨binder, hbinder, hdecl⟩ := List.mem_map.mp hmem
    have hwovenBinder := Expr.binders_subset_of_at? hat (List.mem_append_left _ hbinder)
    have hkept : ∀ binder ∈ woven.binders, binder.decl ≠ some ⟨4⟩ := by
      cases hwoven
      decide
    rw [(hunion bound).mp ⟨d, hd, hbound⟩] at hdecl
    exact hkept binder hwovenBinder hdecl
  refine ⟨woven, hwoven, ?_⟩
  apply Std.ExtTreeSet.ext_mem
  intro handle
  rw [hfree]
  simp [eq_comm (a := handle)]

/-- A renamed binder captures what is inserted under it: `forall y :: y` out of `forall x :: w` uses
nothing free. -/
example :
    ((Subst.ofLists [(⟨1⟩, .ident .synthetic ⟨"y", some ⟨2⟩⟩),
        (⟨3⟩, .ident .synthetic ⟨"y", some ⟨2⟩⟩)] []).instantiateExpr
      (.quantified .synthetic .forall [⟨"x", some ⟨1⟩⟩]
        (.ident .synthetic ⟨"w", some ⟨3⟩⟩))).freeDecls = ∅ := rfl

end Subst

end Graft
