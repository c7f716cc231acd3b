import Graft.Ident
import Graft.Literal
import Graft.Span
import Graft.Symbol

/-!
# Expressions

The trees that are matched and instantiated. Every node carries the span of the text it was read
from. Functions on expressions recurse over the tree and its argument lists together; `induction` is
the matching principle of proof, in which arguments are covered by membership.
-/

namespace Graft

inductive Quantifier where
  | forall
  | exists
  deriving DecidableEq, Inhabited

def Quantifier.keyword : Quantifier → String
  | .forall => "forall"
  | .exists => "exists"

inductive Expr where
  | ident (span : Span) (id : Ident)
  | literal (span : Span) (value : Literal)
  /-- Any symbol may stand before any number of arguments. -/
  | apply (span : Span) (symbol : Symbol) (args : List Expr)
  | quantified (span : Span) (quantifier : Quantifier) (binders : List Ident) (body : Expr)
  deriving Inhabited

inductive NodeKind where
  | identifier
  | literal
  | application
  | quantifier
  deriving DecidableEq, Inhabited

def NodeKind.text : NodeKind → String
  | .identifier => "identifier"
  | .literal => "literal"
  | .application => "application"
  | .quantifier => "quantifier"

namespace Expr

/-- Induction on expressions: the arguments of an application are covered by membership. -/
theorem induction {motive : Expr → Prop} (ident : ∀ span id, motive (.ident span id))
    (literal : ∀ span value, motive (.literal span value))
    (apply : ∀ span symbol args, (∀ arg ∈ args, motive arg) → motive (.apply span symbol args))
    (quantified : ∀ span quantifier binders body, motive body →
      motive (.quantified span quantifier binders body))
    (expr : Expr) : motive expr :=
  Expr.rec (motive_1 := motive) (motive_2 := fun args => ∀ arg ∈ args, motive arg)
    ident literal apply quantified (fun _ h => nomatch h)
    (fun _ _ head tail _ h => by
      rcases List.mem_cons.mp h with rfl | h
      · exact head
      · exact tail _ h)
    expr

/-! ## Parts of a node -/

def span : Expr → Span
  | .ident span _ => span
  | .literal span _ => span
  | .apply span _ _ => span
  | .quantified span _ _ _ => span

def kind : Expr → NodeKind
  | .ident _ _ => .identifier
  | .literal _ _ => .literal
  | .apply _ _ _ => .application
  | .quantified _ _ _ _ => .quantifier

/-- The identifier that an expression consists of, if it is one. -/
def ident? : Expr → Option Ident
  | .ident _ id => some id
  | _ => none

theorem ident?_eq_some_iff {expr : Expr} {id : Ident} :
    expr.ident? = some id ↔ ∃ span, expr = .ident span id := by
  cases expr <;> simp [ident?]

/-! ## Exact equality -/

mutual

/-- Tells whether two expressions are the same, spans and names included. -/
def beq : Expr → Expr → Bool
  | .ident s id, .ident s' id' => s == s' && id == id'
  | .literal s value, .literal s' value' => s == s' && value == value'
  | .apply s symbol args, .apply s' symbol' args' =>
    s == s' && symbol == symbol' && beqs args args'
  | .quantified s quantifier binders body, .quantified s' quantifier' binders' body' =>
    s == s' && quantifier == quantifier' && binders == binders' && beq body body'
  | _, _ => false

def beqs : List Expr → List Expr → Bool
  | [], [] => true
  | expr :: rest, expr' :: rest' => beq expr expr' && beqs rest rest'
  | _, _ => false

end

theorem beqs_iff_of {exprs : List Expr}
    (h : ∀ expr ∈ exprs, ∀ expr', beq expr expr' = true ↔ expr = expr') :
    ∀ exprs', beqs exprs exprs' = true ↔ exprs = exprs' := by
  induction exprs with
  | nil => intro exprs'; cases exprs' <;> simp [beqs]
  | cons expr rest ih =>
    intro exprs'
    cases exprs' with
    | nil => simp [beqs]
    | cons expr' rest' =>
      simp [beqs, h expr (by simp), ih (fun e he => h e (List.mem_cons_of_mem _ he))]

theorem beq_iff (expr : Expr) : ∀ expr', beq expr expr' = true ↔ expr = expr' := by
  induction expr using Expr.induction with
  | apply span symbol args argsIH =>
    intro expr'
    cases expr' <;> simp [beq, beqs_iff_of argsIH, and_assoc]
  | quantified span quantifier binders body bodyIH =>
    intro expr'
    cases expr' <;> simp [beq, bodyIH, and_assoc]
  | _ => intro expr'; cases expr' <;> simp [beq]

instance : DecidableEq Expr := fun expr expr' => decidable_of_iff _ (beq_iff expr expr')

end Expr

end Graft
