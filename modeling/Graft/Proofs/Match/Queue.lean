import Graft.Match.Structural

/-!
# The queue of a matching walk

Visiting a subject node takes the front of the queue and nothing else: the walk over a node is the
simultaneous recursion over the front and that node, with the rest of the queue carried past it
(`visit_cons`). A walk that starts with one pattern node therefore ends with none, and the mismatches
that speak of the queue never arise.
-/

namespace Graft

namespace Expr

/-! ## One node, one pattern node -/

theorem visit_wildcard (strict : Bool) (σ : Subst) (span : Span) (wildcard : Ident)
    (rest : List Expr) (subject : Expr) :
    visit strict σ (.ident span wildcard :: rest) subject =
      (unify strict σ (.ident span wildcard) subject).map fun τ => (rest, τ) := by
  simp only [visit, unify]
  cases σ.capture strict wildcard subject <;> rfl

/-- Subject nodes visited in a row take as many pattern nodes, if each of them takes one. -/
theorem visitAll_append_of {strict : Bool} {subjects : List Expr}
    (h : ∀ subject ∈ subjects, ∀ σ pattern rest,
      visit strict σ (pattern :: rest) subject =
        (unify strict σ pattern subject).map fun τ => (rest, τ)) :
    ∀ σ patterns rest, patterns.length = subjects.length →
      visitAll strict σ (patterns ++ rest) subjects =
        (unifyAll strict σ patterns subjects).map fun τ => (rest, τ) := by
  induction subjects with
  | nil =>
    intro σ patterns rest hlength
    rw [List.length_nil, List.length_eq_zero_iff] at hlength
    rw [hlength, List.nil_append]
    simp only [visitAll, unifyAll, Except.map]
  | cons subject subjects ih =>
    intro σ patterns rest hlength
    cases patterns with
    | nil => cases hlength
    | cons pattern patterns =>
      -- the first visit leaves `patterns ++ rest`, the queue of the visits that are left
      have hrest := ih fun s hs => h s (List.mem_cons_of_mem _ hs)
      rw [List.cons_append, visitAll, unifyAll, h subject List.mem_cons_self]
      cases unify strict σ pattern subject with
      | error mismatch => rfl
      | ok τ => exact hrest τ patterns rest (Nat.succ.inj hlength)

/-- A visit takes the front of the queue and leaves the rest as it was. -/
theorem visit_cons (strict : Bool) (subject : Expr) : ∀ σ pattern rest,
    visit strict σ (pattern :: rest) subject =
      (unify strict σ pattern subject).map fun τ => (rest, τ) := by
  -- on the subject, which drives the walk: a wildcard ends it before the subject's parts are reached
  induction subject using Expr.induction with
  | ident span id =>
    intro σ pattern rest
    cases pattern with
    | ident _ wildcard => exact visit_wildcard ..
    | _ => simp only [visit, unify, Except.map]
  | literal span value' =>
    intro σ pattern rest
    cases pattern with
    | ident _ wildcard => exact visit_wildcard ..
    | literal _ value =>
      simp only [visit, unify]
      split <;> rfl
    | _ => simp only [visit, unify, Except.map]
  | apply span symbol' args' argsIH =>
    intro σ pattern rest
    cases pattern with
    | ident _ wildcard => exact visit_wildcard ..
    | apply _ symbol args =>
      simp only [visit, unify]
      by_cases hlength : args.length = args'.length
      · rw [if_pos hlength, if_pos hlength]
        cases σ.symbols strict symbol symbol' with
        | error mismatch => rfl
        | ok τ =>
          -- equal arity is what keeps the arguments of the two sides in step
          exact visitAll_append_of argsIH τ args rest hlength
      · rw [if_neg hlength, if_neg hlength]
        rfl
    | _ => simp only [visit, unify, Except.map]
  | quantified span quantifier' binders' body' bodyIH =>
    intro σ pattern rest
    cases pattern with
    | ident _ wildcard => exact visit_wildcard ..
    | quantified _ quantifier binders body =>
      simp only [visit, unify]
      by_cases hshape : quantifier = quantifier' ∧ binders.length = binders'.length
      · rw [if_pos hshape, if_pos hshape]
        cases σ.binders strict span binders binders' with
        | error mismatch => rfl
        | ok τ => exact bodyIH τ body rest
      · rw [if_neg hshape, if_neg hshape]
        rfl
    | _ => simp only [visit, unify, Except.map]

theorem matchAgainst_eq_unify (options : Options) (pattern subject : Expr) :
    pattern.matchAgainst options subject =
      unify options.strictFunctionCapture .empty pattern subject := by
  unfold matchAgainst
  rw [visit_cons]
  cases unify options.strictFunctionCapture .empty pattern subject <;> rfl

end Expr

/-! ## Mismatches of the queue -/

/-- Holds of the two mismatches that only a queue can cause. -/
def Mismatch.OfQueue : Mismatch → Prop
  | .patternExhausted => True
  | .patternLeftover _ => True
  | _ => False

/-- Holds of outcomes other than a mismatch of the queue. -/
def SparesQueue {α : Type} : Except Mismatch α → Prop
  | .ok _ => True
  | .error mismatch => ¬ mismatch.OfQueue

theorem SparesQueue.bind {α β : Type} {first : Except Mismatch α} {next : α → Except Mismatch β}
    (hfirst : SparesQueue first) (hnext : ∀ a, SparesQueue (next a)) :
    SparesQueue (first >>= next) := by
  cases first with
  | error mismatch => exact hfirst
  | ok a => exact hnext a

namespace Subst

theorem record_sparesQueue (strict : Bool) (σ : Subst) (pairing : Pairing) :
    SparesQueue (σ.record strict pairing) := by
  cases pairing <;> simp only [record] <;> split <;> (try split) <;>
    simp [SparesQueue, Mismatch.OfQueue]

theorem capture_sparesQueue (strict : Bool) (σ : Subst) (wildcard : Ident) (subject : Expr) :
    SparesQueue (σ.capture strict wildcard subject) := by
  unfold capture
  split
  · exact not_false
  · exact record_sparesQueue ..

theorem symbols_sparesQueue (strict : Bool) (σ : Subst) (pattern subject : Symbol) :
    SparesQueue (σ.symbols strict pattern subject) := by
  unfold symbols
  split
  · exact record_sparesQueue ..
  · exact not_false

theorem binders_sparesQueue (strict : Bool) (span : Span) (pattern : List Ident) :
    ∀ (σ : Subst) (subject : List Ident), SparesQueue (σ.binders strict span pattern subject) := by
  induction pattern with
  | nil => intro σ subject; exact trivial
  | cons binder rest ih =>
    intro σ subject
    cases subject with
    | nil => exact trivial
    | cons binder' rest' =>
      unfold binders
      split
      · exact ih σ rest'
      · exact (record_sparesQueue ..).bind fun τ => ih τ rest'

end Subst

namespace Expr

theorem unifyAll_sparesQueue_of {strict : Bool} {patterns : List Expr}
    (h : ∀ pattern ∈ patterns, ∀ σ subject, SparesQueue (unify strict σ pattern subject)) :
    ∀ σ subjects, SparesQueue (unifyAll strict σ patterns subjects) := by
  induction patterns with
  | nil => intro σ subjects; simp only [unifyAll, SparesQueue]
  | cons pattern patterns ih =>
    intro σ subjects
    cases subjects with
    | nil => simp only [unifyAll, SparesQueue]
    | cons subject subjects =>
      have hrest := ih fun p hp => h p (List.mem_cons_of_mem _ hp)
      rw [unifyAll]
      exact (h pattern List.mem_cons_self σ subject).bind fun τ => hrest τ subjects

/-- The simultaneous recursion has no queue that could run out or be left over. -/
theorem unify_sparesQueue (strict : Bool) (pattern : Expr) :
    ∀ σ subject, SparesQueue (unify strict σ pattern subject) := by
  induction pattern using Expr.induction with
  | ident span wildcard =>
    intro σ subject
    simp only [unify]
    exact Subst.capture_sparesQueue ..
  | literal span value =>
    intro σ subject
    cases subject <;> simp only [unify] <;> (try split) <;> simp [SparesQueue, Mismatch.OfQueue]
  | apply span symbol args argsIH =>
    intro σ subject
    cases subject with
    | apply span' symbol' args' =>
      simp only [unify]
      split
      · exact (Subst.symbols_sparesQueue ..).bind fun τ => unifyAll_sparesQueue_of argsIH τ args'
      · exact not_false
    | _ => simp [unify, SparesQueue, Mismatch.OfQueue]
  | quantified span quantifier binders body bodyIH =>
    intro σ subject
    cases subject with
    | quantified span' quantifier' binders' body' =>
      simp only [unify]
      split
      · exact (Subst.binders_sparesQueue ..).bind fun τ => bodyIH τ body'
      · exact not_false
    | _ => simp [unify, SparesQueue, Mismatch.OfQueue]

/-! ## The walk refines the recursion -/

/-- Matching with a queue has the same outcome as matching by simultaneous recursion: the same
substitution, spans included, or the same mismatch. Each visit leaves exactly the queue that stood
behind its pattern node, so the queue neither runs out nor is left over. -/
theorem walk_refines_recursion (options : Options) (pattern subject : Expr) :
    pattern.matchAgainst options subject =
        unify options.strictFunctionCapture .empty pattern subject ∧
      (∀ strict σ rest, visit strict σ (pattern :: rest) subject =
        (unify strict σ pattern subject).map fun τ => (rest, τ)) ∧
      pattern.matchAgainst options subject ≠ .error .patternExhausted ∧
      ∀ remaining, pattern.matchAgainst options subject ≠ .error (.patternLeftover remaining) := by
  have heq := matchAgainst_eq_unify options pattern subject
  have hspares := unify_sparesQueue options.strictFunctionCapture pattern .empty subject
  refine ⟨heq, fun strict σ rest => visit_cons strict subject σ pattern rest, ?_, ?_⟩
  · intro hexhausted
    rw [← heq, hexhausted] at hspares
    exact hspares trivial
  · intro remaining hleftover
    rw [← heq, hleftover] at hspares
    exact hspares trivial

end Expr

end Graft
