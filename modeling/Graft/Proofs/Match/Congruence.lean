import Graft.Proofs.Match.Transport
import Graft.Proofs.Subst.Congruence

/-!
# Similar patterns, subjects and templates

What tells similar expressions apart is never decisive. The spans and names of a subject are captured
but not compared, the name of a wildcard shows in the reason of a refusal and nowhere else, and the
spans and names of a template are copied. So an expression may be replaced by a similar one, and what
comes out is the same up to similarity (`similar_congruence`).
-/

namespace Graft

namespace Transport

/-- Brings what is captured into its canonical form. -/
def canonical : Transport where
  handle := id
  name := id
  subject := Expr.canon
  handle_injective := Function.injective_id
  similar_subject := Expr.similar_canon

/-- Forgets the names under which a pattern captures. -/
def anonymous : Transport where
  handle := id
  name _ := ""
  subject := id
  handle_injective := Function.injective_id
  similar_subject := similar_id

end Transport

/-! ## Trails of canonical forms -/

/-- The span of the subject's quantifier is captured along with a binder, and is forgotten. -/
theorem Trail.canonical_binders (span span' : Span) (pattern : List Ident) :
    ∀ subject, Transport.canonical.trail (binders span pattern subject) =
      Transport.canonical.trail (binders span' pattern subject) := by
  induction pattern with
  | nil => intro subject; rfl
  | cons binder rest ih =>
    intro subject
    cases subject with
    | nil => rfl
    | cons binder' rest' =>
      obtain ⟨name, decl⟩ := binder
      cases decl with
      | none => exact ih rest'
      | some handle =>
        rw [binders, binders, Transport.trail_andThen, Transport.trail_andThen, ih rest']
        rfl

namespace Expr

def nodewise_canon : Transport.Nodewise canon where
  span _ := .synthetic
  use := Ident.canon
  binder := id
  ident _ _ := rfl
  literal _ _ := rfl
  apply _ symbol args := congrArg (apply .synthetic symbol) (canons_eq_map args)
  quantified _ quantifier binders body :=
    congrArg (quantified .synthetic quantifier · body.canon) (List.map_id binders).symm

/-- A canonical subject leaves the trail of what it stands for, with canonical captures. -/
theorem canonical_align_canon (pattern subject : Expr) :
    Transport.canonical.trail (align pattern subject.canon) =
      Transport.canonical.trail (align pattern subject) := by
  refine Transport.trail_align .refl nodewise_canon ?_ ?_ pattern subject
  · intro wildcard expr
    obtain ⟨name, decl⟩ := wildcard
    cases decl with
    | none => rfl
    | some handle =>
      change Trail.note [.capture handle name expr.canon.canon] = _
      rw [canon_canon]
      rfl
  · intro span binders binders'
    change Transport.canonical.trail
      (Trail.binders .synthetic (binders.map id) (binders'.map id)) = _
    rw [List.map_id, List.map_id, Trail.canonical_binders .synthetic span]

/-- A canonical pattern leaves the trail of what it stands for, names left aside. -/
theorem anonymous_canon_align (pattern subject : Expr) :
    Transport.anonymous.trail (align pattern.canon subject) =
      Transport.anonymous.trail (align pattern subject) := by
  refine Transport.trail_align nodewise_canon .refl ?_ ?_ pattern subject
  · intro wildcard expr
    obtain ⟨name, decl⟩ := wildcard
    cases decl <;> rfl
  · intro span binders binders'
    change Transport.anonymous.trail
      (Trail.binders span (binders.map id) (binders'.map id)) = _
    rw [List.map_id, List.map_id]

/-! ## Outcomes -/

/-- Relates refusals for the same reason, and matches with similar substitutions. -/
inductive SimilarOutcome : Except Mismatch Subst → Except Mismatch Subst → Prop
  | refused (mismatch : Mismatch) : SimilarOutcome (.error mismatch) (.error mismatch)
  | matched {σ τ : Subst} (h : σ.Similar τ) : SimilarOutcome (.ok σ) (.ok τ)

theorem SimilarOutcome.of_canonical {a b : Except Mismatch Subst}
    (h : Transport.canonical.outcome a = Transport.canonical.outcome b) : SimilarOutcome a b := by
  cases a with
  | error mismatch =>
    cases b with
    | error mismatch' =>
      have heq := Except.error.inj h
      rw [Transport.mismatch_eq_self rfl, Transport.mismatch_eq_self rfl] at heq
      rw [heq]
      exact .refused mismatch'
    | ok τ => cases h
  | ok σ =>
    cases b with
    | error mismatch => cases h
    | ok τ => exact .matched (Subst.similar_iff_canon_eq.mpr (Except.ok.inj h))

theorem toOption_eq_of_anonymous {a b : Except Mismatch Subst}
    (h : Transport.anonymous.outcome a = Transport.anonymous.outcome b) :
    a.toOption = b.toOption := by
  cases a with
  | error mismatch =>
    cases b with
    | error mismatch' => rfl
    | ok τ => cases h
  | ok σ =>
    cases b with
    | error mismatch => cases h
    | ok τ =>
      have heq : σ.mapEntries id id = τ.mapEntries id id := Except.ok.inj h
      rw [Subst.mapEntries_id, Subst.mapEntries_id] at heq
      rw [heq]

variable {options : Options} {pattern pattern' subject subject' : Expr}

theorem similarOutcome_of_similar_subject (h : subject.similar subject' = true) :
    SimilarOutcome (pattern.matchAgainst options subject)
      (pattern.matchAgainst options subject') := by
  apply SimilarOutcome.of_canonical
  apply Transport.outcome_eq_of_trail_eq
  rw [← canonical_align_canon pattern subject, (similar_iff_canon_eq subject subject').mp h,
    canonical_align_canon]

theorem toOption_eq_of_similar_pattern (h : pattern.similar pattern' = true) :
    (pattern.matchAgainst options subject).toOption =
      (pattern'.matchAgainst options subject).toOption := by
  apply toOption_eq_of_anonymous
  apply Transport.outcome_eq_of_trail_eq
  rw [← anonymous_canon_align pattern, (similar_iff_canon_eq pattern pattern').mp h,
    anonymous_canon_align]

/-- Similar subjects have similar outcomes, similar patterns match alike, and similar templates have
similar instances. -/
theorem similar_congruence (options : Options) :
    (∀ subject subject' : Expr, subject.similar subject' = true → ∀ pattern : Expr,
      SimilarOutcome (pattern.matchAgainst options subject)
        (pattern.matchAgainst options subject')) ∧
    (∀ pattern pattern' : Expr, pattern.similar pattern' = true → ∀ subject : Expr,
      (pattern.matchAgainst options subject).toOption =
        (pattern'.matchAgainst options subject).toOption) ∧
    (∀ template template' : Expr, template.similar template' = true → ∀ σ : Subst,
      ∃ woven woven', σ.instantiate (.expr template) = .ok (.expr woven) ∧
        σ.instantiate (.expr template') = .ok (.expr woven') ∧ woven.similar woven' = true) := by
  refine ⟨?_, ?_, ?_⟩
  · intro subject subject' h pattern
    exact similarOutcome_of_similar_subject h
  · intro pattern pattern' h subject
    exact toOption_eq_of_similar_pattern h
  · intro template template' h σ
    have hsimilar := (Subst.similar_scopedExpr_iff (Subst.Similar.refl σ) h).mpr fun _ _ => rfl
    exact ⟨_, _, σ.instantiate_expr template, σ.instantiate_expr template', hsimilar⟩

/-- `forall x :: x == w` with another name at the use of `w`, as a subject, as a pattern and as a
template of which only the binder is bound. -/
theorem similar_congruence_names :
    (Subst.allEqual ⟨"i", some ⟨8⟩⟩ ⟨"a", some ⟨7⟩⟩).similar
        (Subst.allEqual ⟨"i", some ⟨8⟩⟩ ⟨"b", some ⟨7⟩⟩) = true ∧
      (Subst.allEqual ⟨"x", some ⟨1⟩⟩ ⟨"w", some ⟨2⟩⟩).similar
        (Subst.allEqual ⟨"x", some ⟨1⟩⟩ ⟨"v", some ⟨2⟩⟩) = true ∧
      SimilarOutcome
        ((Subst.allEqual ⟨"x", some ⟨1⟩⟩ ⟨"w", some ⟨2⟩⟩).matchAgainst {}
          (Subst.allEqual ⟨"i", some ⟨8⟩⟩ ⟨"a", some ⟨7⟩⟩))
        ((Subst.allEqual ⟨"x", some ⟨1⟩⟩ ⟨"w", some ⟨2⟩⟩).matchAgainst {}
          (Subst.allEqual ⟨"i", some ⟨8⟩⟩ ⟨"b", some ⟨7⟩⟩)) ∧
      ((Subst.allEqual ⟨"x", some ⟨1⟩⟩ ⟨"w", some ⟨2⟩⟩).matchAgainst {}
          (Subst.allEqual ⟨"i", some ⟨8⟩⟩ ⟨"a", some ⟨7⟩⟩)).toOption =
        ((Subst.allEqual ⟨"x", some ⟨1⟩⟩ ⟨"v", some ⟨2⟩⟩).matchAgainst {}
          (Subst.allEqual ⟨"i", some ⟨8⟩⟩ ⟨"a", some ⟨7⟩⟩)).toOption ∧
      ∃ woven woven',
        (Subst.ofLists [(⟨1⟩, .ident .synthetic ⟨"i", some ⟨8⟩⟩)] []).instantiate
          (.expr (Subst.allEqual ⟨"x", some ⟨1⟩⟩ ⟨"w", some ⟨2⟩⟩)) = .ok (.expr woven) ∧
        (Subst.ofLists [(⟨1⟩, .ident .synthetic ⟨"i", some ⟨8⟩⟩)] []).instantiate
          (.expr (Subst.allEqual ⟨"x", some ⟨1⟩⟩ ⟨"v", some ⟨2⟩⟩)) = .ok (.expr woven') ∧
        woven.similar woven' = true := by
  have hsubjects : (Subst.allEqual ⟨"i", some ⟨8⟩⟩ ⟨"a", some ⟨7⟩⟩).similar
      (Subst.allEqual ⟨"i", some ⟨8⟩⟩ ⟨"b", some ⟨7⟩⟩) = true := by decide
  have hpatterns : (Subst.allEqual ⟨"x", some ⟨1⟩⟩ ⟨"w", some ⟨2⟩⟩).similar
      (Subst.allEqual ⟨"x", some ⟨1⟩⟩ ⟨"v", some ⟨2⟩⟩) = true := by decide
  obtain ⟨hsubject, hpattern, htemplate⟩ := similar_congruence {}
  exact ⟨hsubjects, hpatterns, hsubject _ _ hsubjects _, hpattern _ _ hpatterns _,
    htemplate _ _ hpatterns _⟩

end Expr

end Graft
