import Graft.Expr.Place
import Graft.Expr.Similar

/-!
# What faces what

The declarative side of matching. A pattern and a subject face each other node by node along the
paths of the pattern, which end at its wildcards. Nothing here depends on an order of comparison or
on what was captured before.
-/

namespace Graft

namespace Expr

/-- What a pattern node asks of the subject node that it faces, the parts of both left aside. -/
def Admits : Expr → Expr → Prop
  | .ident _ wildcard, _ => wildcard.decl.isSome = true
  | .literal _ value, .literal _ value' => value = value'
  | .apply _ symbol args, .apply _ symbol' args' =>
    args.length = args'.length ∧ (symbol = symbol' ∨ symbol.isUser = true)
  | .quantified _ quantifier binders _, .quantified _ quantifier' binders' _ =>
    quantifier = quantifier' ∧ binders.length = binders'.length
  | _, _ => False

theorem admits_literal_iff {span : Span} {value : Literal} {node : Expr} :
    (literal span value).Admits node ↔ ∃ span', node = .literal span' value := by
  cases node with
  | literal span' value' => simp [Admits, eq_comm]
  | _ => simp [Admits]

theorem admits_apply_iff {span : Span} {symbol : Symbol} {args : List Expr} {node : Expr} :
    (apply span symbol args).Admits node ↔ ∃ span' symbol' args',
      node = .apply span' symbol' args' ∧ args.length = args'.length ∧
        (symbol = symbol' ∨ symbol.isUser = true) := by
  refine ⟨?_, ?_⟩
  · intro h
    cases node with
    | apply span' symbol' args' => exact ⟨span', symbol', args', rfl, h⟩
    | _ => cases h
  · rintro ⟨span', symbol', args', rfl, h⟩
    exact h

theorem admits_quantified_iff {span : Span} {quantifier : Quantifier} {binders : List Ident}
    {body node : Expr} :
    (quantified span quantifier binders body).Admits node ↔ ∃ span' binders' body',
      node = .quantified span' quantifier binders' body' ∧ binders.length = binders'.length := by
  refine ⟨?_, ?_⟩
  · intro h
    cases node with
    | quantified span' quantifier' binders' body' =>
      rw [h.1]
      exact ⟨span', binders', body', rfl, h.2⟩
    | _ => cases h
  · rintro ⟨span', binders', body', rfl, h⟩
    exact ⟨rfl, h⟩

/-- Every pattern node faces a subject node that it admits. -/
def AlignedWith (pattern subject : Expr) : Prop :=
  ∀ π node, pattern.at? π = some node → ∃ node', subject.at? π = some node' ∧ node.Admits node'

/-- An identifier of the pattern with the given handle faces the expression, or a binder with that
handle faces the binder that the expression consists of. -/
inductive Captures (pattern subject : Expr) (handle : Handle) : Expr → Prop where
  | wildcard {π : Path} {span : Span} {id : Ident} {expr : Expr}
      (hpattern : pattern.at? π = some (.ident span id)) (hdecl : id.decl = some handle)
      (hsubject : subject.at? π = some expr) : Captures pattern subject handle expr
  | binder {π : Path} {span span' : Span} {quantifier quantifier' : Quantifier}
      {binders binders' : List Ident} {body body' : Expr} {i : Nat} {binder binder' : Ident}
      (hpattern : pattern.at? π = some (.quantified span quantifier binders body))
      (hsubject : subject.at? π = some (.quantified span' quantifier' binders' body'))
      (hbinder : binders[i]? = some binder) (hdecl : binder.decl = some handle)
      (hbinder' : binders'[i]? = some binder') :
      Captures pattern subject handle (.ident span' binder')

/-- What the own identifiers of a pattern node face, one by one: a wildcard the whole subject node, a
binder the binder in the same position, taken as an identifier with the span of the subject's
quantifier. -/
def faced : Expr → Expr → List Expr
  | .ident _ _, subject => [subject]
  | .quantified _ _ _ _, .quantified span _ binders _ => binders.map (.ident span)
  | _, _ => []

/-- An identifier or binder of the pattern with the given handle stands at a place and faces the
expression. -/
def CapturesAt (pattern subject : Expr) (handle : Handle) (place : Place) (expr : Expr) : Prop :=
  ∃ node node' id, pattern.at? place.path = some node ∧ subject.at? place.path = some node' ∧
    node.own[place.index]? = some id ∧ id.decl = some handle ∧
    (node.faced node')[place.index]? = some expr

/-- The symbols of two applications that face each other at the end of a path. -/
def SymbolsAt (pattern subject : Expr) (π : Path) (symbol symbol' : Symbol) : Prop :=
  ∃ span args span' args', pattern.at? π = some (.apply span symbol args) ∧
    subject.at? π = some (.apply span' symbol' args')

/-- Two expressions that stand in one place: nodes at the end of one path, or binders of two
quantifiers there, taken as identifiers. -/
inductive Faces (pattern subject : Expr) : Expr → Expr → Prop where
  | node {π : Path} {node node' : Expr} (hpattern : pattern.at? π = some node)
      (hsubject : subject.at? π = some node') : Faces pattern subject node node'
  | binder {π : Path} {span span' : Span} {quantifier quantifier' : Quantifier}
      {binders binders' : List Ident} {body body' : Expr} {i : Nat} {binder binder' : Ident}
      (hpattern : pattern.at? π = some (.quantified span quantifier binders body))
      (hsubject : subject.at? π = some (.quantified span' quantifier' binders' body'))
      (hbinder : binders[i]? = some binder) (hbinder' : binders'[i]? = some binder') :
      Faces pattern subject (.ident span binder) (.ident span' binder')

/-- All calls of a name, resolved or not, face one symbol. -/
def CallsAgree (pattern subject : Expr) (name : String) : Prop :=
  ∀ π π' f f' g g', pattern.SymbolsAt subject π f g → pattern.SymbolsAt subject π' f' g' →
    f.isCall = true → f'.isCall = true → f.name = name → f'.name = name → g = g'

end Expr

end Graft
