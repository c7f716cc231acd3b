import Graft.Match.Mismatch

/-!
# Alignment of a pattern with a subject

What a pattern and a subject set against each other, position by position in pre-order. An alignment
needs no substitution. It leaves a *trail*: the pairings that it made, in order, and the first place
at which the two shapes part, if they do.
-/

namespace Graft

/-- Two things that an alignment sets against each other. -/
inductive Pairing where
  /-- A wildcard or binder of the pattern faces a subtree or binder of the subject. -/
  | capture (handle : Handle) (name : String) (subject : Expr)
  /-- The symbols of two applications face each other. -/
  | symbols (pattern subject : Symbol)
  deriving DecidableEq, Inhabited

/-- The pairings made up to the end, or up to a mismatch of the shapes. -/
structure Trail where
  pairings : List Pairing
  mismatch? : Option Mismatch
  deriving DecidableEq, Inhabited

namespace Trail

def stop (mismatch : Mismatch) : Trail := ⟨[], some mismatch⟩

def note (pairings : List Pairing) : Trail := ⟨pairings, none⟩

/-- Goes on from a trail that did not end with a mismatch. -/
def andThen (trail next : Trail) : Trail :=
  match trail.mismatch? with
  | some _ => trail
  | none => ⟨trail.pairings ++ next.pairings, next.mismatch?⟩

/-- A wildcard captures whatever stands in its place, if it has a handle to capture under. -/
def capture (wildcard : Ident) (subject : Expr) : Trail :=
  match wildcard.decl with
  | none => stop (.unresolvedWildcard wildcard.name)
  | some handle => note [.capture handle wildcard.name subject]

/-- A symbol faces itself, and a user function faces any symbol. -/
def symbols (pattern subject : Symbol) : Trail :=
  if pattern = subject ∨ pattern.isUser then note [.symbols pattern subject]
  else stop (.function pattern.name subject.name)

/-- Resolved pattern binders capture the subject binders in their places, which become identifiers
with the span of the subject's quantifier. Unresolved ones capture nothing. -/
def binders (span : Span) : List Ident → List Ident → Trail
  | binder :: rest, binder' :: rest' =>
    match binder.decl with
    | none => binders span rest rest'
    | some handle =>
      (note [.capture handle binder.name (.ident span binder')]).andThen (binders span rest rest')
  | _, _ => note []

end Trail

namespace Expr

mutual

def align : Expr → Expr → Trail
  | .ident _ wildcard, subject => .capture wildcard subject
  | .literal _ value, .literal _ value' => if value = value' then .note [] else .stop .literal
  | .apply _ symbol args, .apply _ symbol' args' =>
    if args.length = args'.length then
      (Trail.symbols symbol symbol').andThen (alignAll args args')
    else .stop (.arity args.length args'.length)
  | .quantified _ quantifier binders body, .quantified span quantifier' binders' body' =>
    if quantifier = quantifier' ∧ binders.length = binders'.length then
      (Trail.binders span binders binders').andThen (align body body')
    else .stop .quantifier
  | pattern, subject => .stop (.nodeKind pattern.kind subject.kind)

def alignAll : List Expr → List Expr → Trail
  | pattern :: patterns, subject :: subjects =>
    (align pattern subject).andThen (alignAll patterns subjects)
  | _, _ => .note []

end

end Expr

end Graft
