import Graft.Match.Basic

/-!
# Matching by simultaneous recursion

Two plainer readings of matching. In the first, pattern and subject are taken apart together and only
the substitution is carried from left to right; it needs no queue, and neither exhausts a pattern nor
leaves part of one over. In the second, the two are aligned first and the pairings of the alignment
are recorded afterwards, so that an earlier disagreement outweighs a later mismatch of shapes.
-/

namespace Graft

namespace Expr

mutual

/-- Matches a pattern against a subject, starting from what `σ` has captured. -/
def unify (strict : Bool) (σ : Subst) : Expr → Expr → Except Mismatch Subst
  | .ident _ wildcard, subject => σ.capture strict wildcard subject
  | .literal _ value, .literal _ value' => if value = value' then .ok σ else .error .literal
  | .apply _ symbol args, .apply _ symbol' args' =>
    if args.length = args'.length then do
      let σ ← σ.symbols strict symbol symbol'
      unifyAll strict σ args args'
    else .error (.arity args.length args'.length)
  | .quantified _ quantifier binders body, .quantified span quantifier' binders' body' =>
    if quantifier = quantifier' ∧ binders.length = binders'.length then do
      let σ ← σ.binders strict span binders binders'
      unify strict σ body body'
    else .error .quantifier
  | pattern, subject => .error (.nodeKind pattern.kind subject.kind)

def unifyAll (strict : Bool) (σ : Subst) : List Expr → List Expr → Except Mismatch Subst
  | pattern :: patterns, subject :: subjects => do
    let σ ← unify strict σ pattern subject
    unifyAll strict σ patterns subjects
  | _, _ => .ok σ

end

end Expr

/-- Solves a trail from what `σ` has captured: its pairings are recorded first, then its own
mismatch counts. -/
def Trail.solve (strict : Bool) (σ : Subst) (trail : Trail) : Except Mismatch Subst := do
  let σ ← σ.recordAll strict trail.pairings
  match trail.mismatch? with
  | none => return σ
  | some mismatch => throw mismatch

end Graft
