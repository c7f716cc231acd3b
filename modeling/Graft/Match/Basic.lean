import Graft.Command.Basic
import Graft.Expr.Similar
import Graft.Match.Alignment
import Graft.Options.Basic
import Graft.Subst.Basic

/-!
# Matching

The subject is walked in pre-order while a queue of pattern nodes is consumed from the front: every
visited subject node takes one pattern node, and a matched application or quantifier puts its own
parts before the rest of the queue. What wildcards and functions face is captured on the way. The
first capture under a handle or a name stands and later ones are checked against it; the walk ends
at the first mismatch.
-/

namespace Graft

namespace Subst

/-! ## Capturing -/

/-- Records one pairing, or tells how it disagrees with what is recorded. A later subtree has to be
similar to the first one; a later symbol has to equal the first one only when `strict`. -/
def record (strict : Bool) (σ : Subst) : Pairing → Except Mismatch Subst
  | .capture handle name subject =>
    match σ.value? handle with
    | some first => if first.similar subject then .ok σ else .error (.inconsistentBinding name)
    | none => .ok (σ.bind handle subject)
  | .symbols pattern subject =>
    match σ.function? pattern.name with
    | some first =>
      if strict && first != subject then .error (.inconsistentFunction pattern.name) else .ok σ
    | none => .ok (if pattern.isUser then σ.bindFunction pattern.name subject else σ)

def recordAll (strict : Bool) (σ : Subst) (pairings : List Pairing) : Except Mismatch Subst :=
  pairings.foldlM (record strict) σ

def capture (strict : Bool) (σ : Subst) (wildcard : Ident) (subject : Expr) :
    Except Mismatch Subst :=
  match wildcard.decl with
  | none => .error (.unresolvedWildcard wildcard.name)
  | some handle => σ.record strict (.capture handle wildcard.name subject)

def symbols (strict : Bool) (σ : Subst) (pattern subject : Symbol) : Except Mismatch Subst :=
  if pattern = subject ∨ pattern.isUser then σ.record strict (.symbols pattern subject)
  else .error (.function pattern.name subject.name)

/-- Captures the subject binders that stand in the places of resolved pattern binders. -/
def binders (strict : Bool) (span : Span) (σ : Subst) :
    List Ident → List Ident → Except Mismatch Subst
  | binder :: rest, binder' :: rest' =>
    match binder.decl with
    | none => binders strict span σ rest rest'
    | some handle => do
      let σ ← σ.record strict (.capture handle binder.name (.ident span binder'))
      binders strict span σ rest rest'
  | _, _ => .ok σ

end Subst

namespace Expr

/-! ## The walk -/

mutual

/-- Sets the front of the queue against a subject node. What follows it is left in the queue. -/
def visit (strict : Bool) (σ : Subst) : List Expr → Expr → Except Mismatch (List Expr × Subst)
  | [], _ => .error .patternExhausted
  | .ident _ wildcard :: pending, subject => do
    let σ ← σ.capture strict wildcard subject
    return (pending, σ)
  | .literal _ value :: pending, .literal _ value' =>
    if value = value' then .ok (pending, σ) else .error .literal
  | .apply _ symbol args :: pending, .apply _ symbol' args' =>
    if args.length = args'.length then do
      let σ ← σ.symbols strict symbol symbol'
      visitAll strict σ (args ++ pending) args'
    else .error (.arity args.length args'.length)
  | .quantified _ quantifier binders body :: pending, .quantified span quantifier' binders' body' =>
    if quantifier = quantifier' ∧ binders.length = binders'.length then do
      let σ ← σ.binders strict span binders binders'
      visit strict σ (body :: pending) body'
    else .error .quantifier
  | pattern :: _, subject => .error (.nodeKind pattern.kind subject.kind)

def visitAll (strict : Bool) (σ : Subst) :
    List Expr → List Expr → Except Mismatch (List Expr × Subst)
  | pending, [] => .ok (pending, σ)
  | pending, subject :: rest => do
    let (pending, σ) ← visit strict σ pending subject
    visitAll strict σ pending rest

end

/-- Matches a pattern against a subject. A pattern node that the walk leaves over is a mismatch. -/
def matchAgainst (options : Options) (pattern subject : Expr) : Except Mismatch Subst := do
  match ← visit options.strictFunctionCapture .empty [pattern] subject with
  | ([], σ) => return σ
  | (rest, _) => throw (.patternLeftover rest.length)

/-! ## Several candidates -/

/-- Matches a pattern against each subject in turn up to the first success. If none succeeds the
last failure is the answer, or `last` where there is no subject. -/
def matchFirst (options : Options) (pattern : Expr) (last : Mismatch) :
    List Expr → Except Mismatch Subst
  | [] => .error last
  | subject :: rest =>
    match pattern.matchAgainst options subject with
    | .ok σ => .ok σ
    | .error mismatch => matchFirst options pattern mismatch rest

def matchWithin (options : Options) (pattern : Expr) (command : Command) :
    Except Mismatch Subst :=
  pattern.matchFirst options .noCandidate command.candidates

end Expr

end Graft
