import Graft.Proofs.Match.Captured
import Graft.Proofs.Match.Transport
import Graft.Proofs.Subst.Scope
import Graft.Subst.Relabel

/-!
# Hygiene of wildcards

The handles of a pattern name its places and nothing else. Under other handles it matches the same
subjects, captures the same and is rebuilt to the same expression, whether or not its handles also
occur in the subject (`matchAgainst_relabel`).
-/

namespace Graft

variable {r : Handle → Handle}

/-! ## Alignment under other handles -/

/-- Relabels handles, and leaves the names and the subject's side alone. -/
def Transport.relabel (hr : Function.Injective r) : Transport where
  handle := r
  name := id
  subject := id
  handle_injective := hr
  similar_subject := Transport.similar_id

theorem Trail.capture_relabel (hr : Function.Injective r) (wildcard : Ident) (subject : Expr) :
    capture (wildcard.relabel r) subject = (Transport.relabel hr).trail (capture wildcard subject) := by
  obtain ⟨name, decl⟩ := wildcard
  cases decl <;> rfl

theorem Trail.binders_relabel (hr : Function.Injective r) (span : Span) (pattern : List Ident) :
    ∀ subject : List Ident, binders span (pattern.map (Ident.relabel r)) subject =
      (Transport.relabel hr).trail (binders span pattern subject) := by
  induction pattern with
  | nil => intro subject; rfl
  | cons binder rest ih =>
    intro subject
    cases subject with
    | nil => rfl
    | cons binder' rest' =>
      obtain ⟨name, decl⟩ := binder
      cases decl with
      | none => exact ih rest'
      | some handle =>
        change (note [.capture (r handle) name (.ident span binder')]).andThen
          (binders span (rest.map (Ident.relabel r)) rest') = _
        rw [ih rest', binders, Transport.trail_andThen]
        rfl

namespace Expr

def nodewise_relabel (r : Handle → Handle) : Transport.Nodewise (relabel r) where
  span := id
  use := Ident.relabel r
  binder := Ident.relabel r
  ident _ _ := rfl
  literal _ _ := rfl
  apply span symbol args := congrArg (apply span symbol) (relabelAll_eq_map r args)
  quantified _ _ _ _ := rfl

/-- A relabelled pattern is aligned as before, under the new handles. -/
theorem align_relabel (hr : Function.Injective r) (pattern subject : Expr) :
    align (pattern.relabel r) subject = (Transport.relabel hr).trail (align pattern subject) := by
  rw [← Transport.trail_refl (align (pattern.relabel r) subject)]
  refine Transport.trail_align (nodewise_relabel r) .refl ?_ ?_ pattern subject
  · intro wildcard expr
    exact (Transport.trail_refl _).trans (Trail.capture_relabel hr wildcard expr)
  · intro span binders binders'
    rw [Transport.trail_refl, ← Trail.binders_relabel hr]
    exact congrArg (Trail.binders span (binders.map (Ident.relabel r))) (List.map_id binders')

/-! ## Instantiation under other handles -/

variable {σ : Subst} {options : Options} {pattern subject : Expr}

/-- A match binds the resolved binders of its pattern to identifiers: what else was captured under the
handle of a binder would not be similar to the binder that it faces. -/
theorem hidesNothingIn_of_match (hmatch : pattern.matchAgainst options subject = .ok σ) :
    σ.HidesNothingIn pattern := by
  intro binder hbinder bound hbound
  obtain ⟨handle, hdecl, hvalue⟩ := Option.bind_eq_some_iff.mp hbound
  obtain ⟨span, id, hcaptures⟩ :=
    exists_captures_ident (alignedWith_of_match hmatch) hbinder hdecl
  obtain ⟨first, hfirst, hsimilar⟩ := value?_of_captures hmatch hcaptures
  rw [hvalue, Option.some.injEq] at hfirst
  obtain ⟨id', hid', -⟩ := ident?_of_similar hsimilar rfl
  rw [hfirst, hid', Option.isSome_some]

end Expr

namespace Subst

theorem ident?_relabel (hr : Function.Injective r) (σ : Subst) (id : Ident) :
    (σ.relabel r).ident? (id.relabel r) = σ.ident? id := by
  obtain ⟨name, decl⟩ := id
  cases decl with
  | none => rfl
  | some handle => exact value?_relabel hr σ handle

/-- Holds when every resolved identifier and binder of an expression is bound. -/
def BindsAllOf (σ : Subst) (expr : Expr) : Prop :=
  ∀ id ∈ expr.identifiers ++ expr.binders, id.decl.isSome = true → (σ.ident? id).isSome = true

section BindsAllOf

variable {σ : Subst} {span : Span}

theorem BindsAllOf.arg {symbol : Symbol} {args : List Expr} {arg : Expr}
    (h : σ.BindsAllOf (.apply span symbol args)) (harg : arg ∈ args) : σ.BindsAllOf arg := by
  intro id hid
  refine h id ?_
  rw [Expr.identifiers_apply, Expr.binders_apply, List.mem_append, List.mem_flatMap,
    List.mem_flatMap]
  cases List.mem_append.mp hid with
  | inl hident => exact .inl ⟨arg, harg, hident⟩
  | inr hbinder => exact .inr ⟨arg, harg, hbinder⟩

theorem BindsAllOf.body {quantifier : Quantifier} {binders : List Ident} {inner : Expr}
    (h : σ.BindsAllOf (.quantified span quantifier binders inner)) : σ.BindsAllOf inner := by
  intro id hid
  refine h id ?_
  cases List.mem_append.mp hid with
  | inl hident => exact List.mem_append_left _ hident
  | inr hbinder => exact List.mem_append_right _ (List.mem_append_right _ hbinder)

theorem BindsAllOf.binder {quantifier : Quantifier} {binders : List Ident} {inner : Expr}
    (h : σ.BindsAllOf (.quantified span quantifier binders inner)) {binder : Ident}
    (hbinder : binder ∈ binders) (hdecl : binder.decl.isSome = true) :
    (σ.ident? binder).isSome = true :=
  h binder (List.mem_append_right _ (List.mem_append_left _ hbinder)) hdecl

end BindsAllOf

/-- An identifier with nothing bound to it has no handle to be relabelled, if every handle is
bound. -/
theorem relabel_of_ident?_eq_none {σ : Subst} {id : Ident}
    (hbound : id.decl.isSome = true → (σ.ident? id).isSome = true) (hnone : σ.ident? id = none) :
    id.relabel r = id := by
  apply Ident.relabel_of_unresolved
  rw [← Option.not_isSome_iff_eq_none]
  intro hsome
  have hfound := hbound hsome
  rw [hnone] at hfound
  cases hfound

theorem scopedBinder_relabel (hr : Function.Injective r) {σ : Subst} {binder : Ident}
    (hbound : binder.decl.isSome = true → (σ.ident? binder).isSome = true)
    (hident : ∀ expr, σ.ident? binder = some expr → expr.ident?.isSome = true) :
    (σ.relabel r).scopedBinder (binder.relabel r) = σ.scopedBinder binder := by
  unfold scopedBinder
  rw [ident?_relabel hr]
  cases hvalue : σ.ident? binder with
  | none => exact relabel_of_ident?_eq_none hbound hvalue
  | some expr =>
    obtain ⟨id, hid⟩ := Option.isSome_iff_exists.mp (hident expr hvalue)
    obtain ⟨span, rfl⟩ := Expr.ident?_eq_some_iff.mp hid
    rfl

/-- Where everything is bound, and binders to identifiers, no handle of a template shows in its
instance: the template and the keys of the substitution may be relabelled together. -/
theorem scopedExpr_relabel (hr : Function.Injective r) {σ : Subst} {template : Expr}
    (hbound : σ.BindsAllOf template) (hscope : σ.HidesNothingIn template) :
    (σ.relabel r).scopedExpr (template.relabel r) = σ.scopedExpr template := by
  induction template using Expr.induction with
  | ident span id =>
    rw [Expr.relabel, scopedExpr, scopedExpr, ident?_relabel hr]
    cases hvalue : σ.ident? id with
    | some expr => rfl
    | none =>
      have hid : id ∈ (Expr.ident span id).identifiers ++ (Expr.ident span id).binders :=
        List.mem_append_left _ List.mem_cons_self
      rw [relabel_of_ident?_eq_none (hbound id hid) hvalue]
  | literal span value => rfl
  | apply span symbol args argsIH =>
    have hargs : ∀ arg ∈ args, (σ.relabel r).scopedExpr (arg.relabel r) = σ.scopedExpr arg :=
      fun arg harg => argsIH arg harg (hbound.arg harg) (hscope.arg harg)
    rw [Expr.relabel, scopedExpr, scopedExpr, Expr.relabelAll_eq_map, scopedExprs_eq_map,
      scopedExprs_eq_map, List.map_map]
    exact congrArg (Expr.apply span _) (List.map_congr_left hargs)
  | quantified span quantifier binders body bodyIH =>
    have hbinders : ∀ binder ∈ binders,
        (σ.relabel r).scopedBinder (binder.relabel r) = σ.scopedBinder binder := by
      intro binder hbinder
      exact scopedBinder_relabel hr (hbound.binder hbinder)
        (hscope binder (List.mem_append_left _ hbinder))
    -- the relabelled quantifier hides nothing either
    have hunder : (σ.relabel r).under (binders.map (Ident.relabel r)) = σ.relabel r := by
      apply under_eq_self
      intro binder' hbinder' expr hvalue
      obtain ⟨binder, hbinder, rfl⟩ := List.mem_map.mp hbinder'
      rw [ident?_relabel hr] at hvalue
      exact hscope binder (List.mem_append_left _ hbinder) expr hvalue
    rw [Expr.relabel, scopedExpr, scopedExpr, hunder, hscope.under_eq_self,
      bodyIH hbound.body hscope.body, List.map_map]
    exact congrArg (Expr.quantified span quantifier · _) (List.map_congr_left hbinders)

end Subst

namespace Expr

theorem bindsAllOf_of_match {σ : Subst} {options : Options} {pattern subject : Expr}
    (hmatch : pattern.matchAgainst options subject = .ok σ) : σ.BindsAllOf pattern := by
  intro id hid hresolved
  obtain ⟨handle, hdecl⟩ := Option.isSome_iff_exists.mp hresolved
  rw [Subst.ident?, hdecl]
  exact (isSome_value?_iff_of_match hmatch).mpr ⟨id, hid, hdecl⟩

theorem outcome_relabel (hr : Function.Injective r) (outcome : Except Mismatch Subst) :
    (Transport.relabel hr).outcome outcome = outcome.map (Subst.relabel r) := by
  cases outcome with
  | error mismatch => exact congrArg Except.error (Transport.mismatch_eq_self rfl mismatch)
  | ok σ => rfl

/-- Under other handles a pattern is refused for the same reason, or matches and captures the same
under the new handles; and it is rebuilt to the same expression. -/
theorem matchAgainst_relabel (hr : Function.Injective r) (options : Options)
    (pattern subject : Expr) :
    (pattern.relabel r).matchAgainst options subject =
        (pattern.matchAgainst options subject).map (Subst.relabel r) ∧
      ∀ σ, pattern.matchAgainst options subject = .ok σ →
        (σ.relabel r).instantiate (.expr (pattern.relabel r)) = σ.instantiate (.expr pattern) := by
  constructor
  · rw [← outcome_relabel hr]
    exact Transport.matchAgainst_of_align_eq (align_relabel hr pattern subject)
  · intro σ hmatch
    rw [Subst.instantiate_expr, Subst.instantiate_expr, Subst.scopedExpr_relabel hr
      (bindsAllOf_of_match hmatch) (hidesNothingIn_of_match hmatch)]

/-- `forall x :: x < bound && bound != x`. -/
def allBelow (x bound : Ident) : Expr :=
  .quantified .synthetic .forall [x] (.apply .synthetic (.binary .and)
    [.apply .synthetic (.binary .lt) [.ident .synthetic x, .ident .synthetic bound],
      .apply .synthetic (.binary .ne) [.ident .synthetic bound, .ident .synthetic x]])

/-- Moved six places on, the pattern captures `a#8` under `7` and `b#7` under `8`. To look up again
what was captured would turn each into the other. -/
theorem matchAgainst_relabel_crossed :
    Function.Injective (Handle.shift 6) ∧
      ∃ σ : Subst,
        ((allBelow ⟨"x", some ⟨1⟩⟩ ⟨"w", some ⟨2⟩⟩).relabel (Handle.shift 6)).matchAgainst {}
          (allBelow ⟨"a", some ⟨8⟩⟩ ⟨"b", some ⟨7⟩⟩) = .ok (σ.relabel (Handle.shift 6)) ∧
        (σ.relabel (Handle.shift 6)).instantiate
            (.expr ((allBelow ⟨"x", some ⟨1⟩⟩ ⟨"w", some ⟨2⟩⟩).relabel (Handle.shift 6))) =
          .ok (.expr (allBelow ⟨"a", some ⟨8⟩⟩ ⟨"b", some ⟨7⟩⟩)) := by
  have hmatch : (allBelow ⟨"x", some ⟨1⟩⟩ ⟨"w", some ⟨2⟩⟩).matchAgainst {}
      (allBelow ⟨"a", some ⟨8⟩⟩ ⟨"b", some ⟨7⟩⟩) = .ok _ := rfl
  obtain ⟨houtcome, hinstance⟩ := matchAgainst_relabel (Handle.shift_injective 6) {}
    (allBelow ⟨"x", some ⟨1⟩⟩ ⟨"w", some ⟨2⟩⟩) (allBelow ⟨"a", some ⟨8⟩⟩ ⟨"b", some ⟨7⟩⟩)
  rw [hmatch] at houtcome
  exact ⟨Handle.shift_injective 6, _, houtcome, (hinstance _ hmatch).trans rfl⟩

end Expr

end Graft
