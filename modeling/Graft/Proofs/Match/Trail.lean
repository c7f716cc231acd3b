import Graft.Proofs.Match.Queue
import Graft.Proofs.Match.Recording

/-!
# Matching along a trail

Matching is alignment followed by recording (`unify_eq_solve`): the shapes decide alone how far the
alignment gets, and the pairings made until then are recorded in their order.
-/

namespace Graft

/-! ## Alignment before recording -/

namespace Trail

variable {strict : Bool}

theorem solve_note_nil (σ : Subst) : (note []).solve strict σ = .ok σ := rfl

theorem solve_note (σ : Subst) (pairing : Pairing) :
    (note [pairing]).solve strict σ = σ.record strict pairing := by
  simp only [solve, note, Subst.recordAll, List.foldlM_cons, List.foldlM_nil]
  cases σ.record strict pairing <;> rfl

theorem solve_stop (σ : Subst) (mismatch : Mismatch) :
    (stop mismatch).solve strict σ = .error mismatch := rfl

/-- What comes after a trail is solved from where the trail has led. -/
theorem solve_andThen (trail next : Trail) (σ : Subst) :
    (trail.andThen next).solve strict σ =
      trail.solve strict σ >>= fun τ => next.solve strict τ := by
  rcases trail with ⟨pairings, mismatch?⟩
  cases mismatch? with
  | some mismatch =>
    -- nothing comes after a mismatch, recorded or not
    simp only [andThen, solve]
    cases σ.recordAll strict pairings <;> rfl
  | none =>
    simp only [andThen, solve, Subst.recordAll, List.foldlM_append]
    cases List.foldlM (Subst.record strict) σ pairings <;> rfl

theorem solve_capture (σ : Subst) (wildcard : Ident) (subject : Expr) :
    (capture wildcard subject).solve strict σ = σ.capture strict wildcard subject := by
  unfold capture Subst.capture
  cases wildcard.decl with
  | none => rfl
  | some handle => exact solve_note ..

theorem solve_symbols (σ : Subst) (pattern subject : Symbol) :
    (symbols pattern subject).solve strict σ = σ.symbols strict pattern subject := by
  unfold symbols Subst.symbols
  split
  · exact solve_note ..
  · rfl

theorem solve_binders (span : Span) (pattern : List Ident) : ∀ (σ : Subst) (subject : List Ident),
    (binders span pattern subject).solve strict σ = σ.binders strict span pattern subject := by
  induction pattern with
  | nil => intro σ subject; rfl
  | cons binder rest ih =>
    intro σ subject
    cases subject with
    | nil => rfl
    | cons binder' rest' =>
      unfold binders Subst.binders
      cases binder.decl with
      | none => exact ih σ rest'
      | some handle =>
        simp only [solve_andThen, solve_note, ih]

end Trail

namespace Expr

variable {strict : Bool}

theorem unifyAll_eq_solve_of {patterns : List Expr}
    (h : ∀ pattern ∈ patterns, ∀ σ subject,
      unify strict σ pattern subject = (align pattern subject).solve strict σ) :
    ∀ σ subjects, unifyAll strict σ patterns subjects =
      (alignAll patterns subjects).solve strict σ := by
  induction patterns with
  | nil => intro σ subjects; simp only [unifyAll, alignAll, Trail.solve_note_nil]
  | cons pattern patterns ih =>
    intro σ subjects
    cases subjects with
    | nil => simp only [unifyAll, alignAll, Trail.solve_note_nil]
    | cons subject subjects =>
      have hrest := ih fun p hp => h p (List.mem_cons_of_mem _ hp)
      rw [unifyAll, alignAll, Trail.solve_andThen, h pattern List.mem_cons_self]
      simp only [hrest]

/-- Matching aligns first and records afterwards. -/
theorem unify_eq_solve (pattern : Expr) : ∀ σ subject,
    unify strict σ pattern subject = (align pattern subject).solve strict σ := by
  -- for every `σ`: the recursion reaches later parts with what earlier ones have captured
  induction pattern using Expr.induction with
  | ident span wildcard =>
    intro σ subject
    simp only [unify, align, Trail.solve_capture]
  | literal span value =>
    intro σ subject
    cases subject with
    | literal span' value' =>
      simp only [unify, align]
      split <;> rfl
    | _ => simp only [unify, align, Trail.solve_stop]
  | apply span symbol args argsIH =>
    intro σ subject
    cases subject with
    | apply span' symbol' args' =>
      simp only [unify, align]
      split
      · rw [Trail.solve_andThen, Trail.solve_symbols]
        simp only [unifyAll_eq_solve_of argsIH]
      · rfl
    | _ => simp only [unify, align, Trail.solve_stop]
  | quantified span quantifier binders body bodyIH =>
    intro σ subject
    cases subject with
    | quantified span' quantifier' binders' body' =>
      simp only [unify, align]
      split
      · rw [Trail.solve_andThen, Trail.solve_binders]
        simp only [bodyIH]
      · rfl
    | _ => simp only [unify, align, Trail.solve_stop]

theorem matchAgainst_eq_solve (options : Options) (pattern subject : Expr) :
    pattern.matchAgainst options subject =
      (align pattern subject).solve options.strictFunctionCapture .empty := by
  rw [matchAgainst_eq_unify, unify_eq_solve]

theorem matchAgainst_eq_ok_iff {options : Options} {pattern subject : Expr} {σ : Subst} :
    pattern.matchAgainst options subject = .ok σ ↔
      (align pattern subject).mismatch? = none ∧
        Subst.empty.recordAll options.strictFunctionCapture (align pattern subject).pairings =
          .ok σ := by
  rw [matchAgainst_eq_solve]
  unfold Trail.solve
  cases Subst.empty.recordAll options.strictFunctionCapture (align pattern subject).pairings with
  | error mismatch =>
    refine ⟨?_, ?_⟩
    · intro h
      cases h
    · rintro ⟨-, h⟩
      cases h
  | ok τ =>
    cases (align pattern subject).mismatch? with
    | some mismatch =>
      refine ⟨?_, ?_⟩
      · intro h
        cases h
      · rintro ⟨h, -⟩
        cases h
    | none =>
      refine ⟨?_, ?_⟩
      · intro h
        exact ⟨rfl, h⟩
      · rintro ⟨-, h⟩
        exact h

end Expr

end Graft
