import Graft.Expr.Path
import Graft.Expr.Similar
import Mathlib.Data.List.Forall2

/-!
# Canonical forms

The canonical form of an expression has a node at the same paths, each told by the node that stands
there (`Expr.Erases`), and is the only expression like that (`Expr.canon_eq_iff`). Similarity is
equality of canonical forms, hence an equivalence that respects applications and quantifiers
(`Expr.similar_iff_canonical_forms_agree`).
-/

namespace Graft

namespace Expr

/-- Holds of a node and of what is left of it in canonical form: its span is erased, and so is the
name of a resolved identifier. What stands below a node is left to its parts. -/
inductive Erases : Expr → Expr → Prop
  | resolved (span : Span) (name : String) (handle : Handle) :
      Erases (.ident span ⟨name, some handle⟩) (.ident .synthetic ⟨"", some handle⟩)
  | unresolved (span : Span) (name : String) :
      Erases (.ident span ⟨name, none⟩) (.ident .synthetic ⟨name, none⟩)
  | literal (span : Span) (value : Literal) :
      Erases (.literal span value) (.literal .synthetic value)
  | apply (span : Span) (symbol : Symbol) (args args' : List Expr) :
      Erases (.apply span symbol args) (.apply .synthetic symbol args')
  | quantified (span : Span) (quantifier : Quantifier) (binders : List Ident) (body body' : Expr) :
      Erases (.quantified span quantifier binders body)
        (.quantified .synthetic quantifier binders body')

theorem erases_canon (expr : Expr) : expr.Erases expr.canon := by
  cases expr with
  | ident span id =>
    obtain ⟨name, decl⟩ := id
    cases decl with
    | none => exact .unresolved span name
    | some handle => exact .resolved span name handle
  | literal span value => exact .literal span value
  | apply span symbol args => exact .apply span symbol args _
  | quantified span quantifier binders body => exact .quantified span quantifier binders body _

/-! ## Canonical forms along paths -/

/-- The nodes of a canonical form are the canonical forms of the nodes. -/
theorem at?_canon (expr : Expr) (π : Path) : expr.canon.at? π = (expr.at? π).map canon := by
  induction π generalizing expr with
  | nil => rw [at?_nil, at?_nil, Option.map_some]
  | cons i π ih =>
    cases expr with
    | ident span id => rfl
    | literal span value => rfl
    | apply span symbol args =>
      rw [canon, canons_eq_map, at?_apply_cons, at?_apply_cons, atAll?, atAll?, List.getElem?_map]
      cases args[i]? with
      | none => rfl
      | some arg => exact ih arg
    | quantified span quantifier binders body =>
      cases i with
      | zero => exact ih body
      | succ i => rfl

theorem rel_erases_canon (expr : Expr) (π : Path) :
    Option.Rel Erases (expr.at? π) (expr.canon.at? π) := by
  rw [at?_canon]
  cases expr.at? π with
  | none => exact .none
  | some node => exact .some node.erases_canon

/-- What stands at the root of one of two expressions that correspond along all paths tells what
stands at the root of the other. -/
theorem erases_of_rel {expr canonical : Expr}
    (h : ∀ π, Option.Rel Erases (expr.at? π) (canonical.at? π)) : expr.Erases canonical := by
  have hroot := h []
  rw [at?_nil, at?_nil] at hroot
  cases hroot with
  | some hnode => exact hnode

theorem canon_eq_of_rel {expr : Expr} : ∀ {canonical : Expr},
    (∀ π, Option.Rel Erases (expr.at? π) (canonical.at? π)) → expr.canon = canonical := by
  induction expr using Expr.induction with
  | ident span id =>
    intro canonical h
    cases erases_of_rel h <;> rfl
  | literal span value =>
    intro canonical h
    cases erases_of_rel h
    rfl
  | apply span symbol args argsIH =>
    intro canonical h
    cases erases_of_rel h with
    | apply span symbol args args' =>
      rw [canon, canons_eq_map, apply.injEq]
      refine ⟨rfl, rfl, List.ext_getElem? fun i => ?_⟩
      -- the arguments at one place correspond along all paths, or there is none on either side
      have hplace : ∀ π, Option.Rel Erases (atAll? args (i, π)) (atAll? args' (i, π)) :=
        fun π => h (i :: π)
      have hhere := hplace []
      rw [List.getElem?_map]
      simp only [atAll?] at hplace hhere
      cases harg : args[i]? with
      | none =>
        cases harg' : args'[i]? with
        | none => rfl
        | some arg' =>
          rw [harg, harg', Option.bind_some, at?_nil] at hhere
          cases hhere
      | some arg =>
        cases harg' : args'[i]? with
        | none =>
          rw [harg, harg', Option.bind_some, at?_nil] at hhere
          cases hhere
        | some arg' =>
          rw [harg, harg'] at hplace
          rw [Option.map_some, argsIH arg (List.mem_of_getElem? harg) hplace]
  | quantified span quantifier binders body bodyIH =>
    intro canonical h
    cases erases_of_rel h with
    | quantified span quantifier binders body body' =>
      rw [canon, bodyIH fun π => h (0 :: π)]

/-- A canonical form is told by what stands at its paths. -/
theorem canon_eq_iff {expr canonical : Expr} :
    expr.canon = canonical ↔ ∀ π, Option.Rel Erases (expr.at? π) (canonical.at? π) := by
  constructor
  · intro h π
    rw [← h]
    exact rel_erases_canon expr π
  · exact canon_eq_of_rel

/-! ## Similarity -/

theorem similar_equivalence : Equivalence fun a b : Expr => a.similar b = true where
  refl := similar_refl
  symm := similar_symm
  trans := similar_trans

theorem similars_of_forall₂ {args args' : List Expr}
    (h : List.Forall₂ (fun arg arg' => arg.similar arg' = true) args args') :
    similars args args' = true := by
  induction h with
  | nil => rfl
  | cons hfirst _ ih => rw [similars, hfirst, ih, Bool.and_true]

/-- Expressions are similar if and only if their canonical forms are equal, and a canonical form is
what is left of an expression once every span and the name of every resolved identifier occurrence
are erased. So similarity is an equivalence that every expression has to itself, and nodes that agree
in all but their spans are similar if their parts are. -/
theorem similar_iff_canonical_forms_agree :
    (∀ a b : Expr, a.similar b = true ↔ a.canon = b.canon) ∧
    (∀ a canonical : Expr, a.canon = canonical ↔
      ∀ π, Option.Rel Erases (a.at? π) (canonical.at? π)) ∧
    Equivalence (fun a b : Expr => a.similar b = true) ∧
    (∀ a b : Expr, a = b → a.similar b = true) ∧
    (∀ (span span' : Span) (symbol : Symbol) (args args' : List Expr),
      List.Forall₂ (fun arg arg' => arg.similar arg' = true) args args' →
        (apply span symbol args).similar (apply span' symbol args') = true) ∧
    ∀ (span span' : Span) (quantifier : Quantifier) (binders : List Ident) (body body' : Expr),
      body.similar body' = true →
        (quantified span quantifier binders body).similar
          (quantified span' quantifier binders body') = true := by
  refine ⟨similar_iff_canon_eq, fun _ _ => canon_eq_iff, similar_equivalence, ?_, ?_, ?_⟩
  · intro a b heq
    rw [heq]
    exact similar_refl b
  · intro span span' symbol args args' hargs
    exact similar_apply_iff.mpr ⟨span', args', rfl, similars_of_forall₂ hargs⟩
  · intro span span' quantifier binders body body' hbody
    exact similar_quantified_iff.mpr ⟨span', body', rfl, hbody⟩

/-- `x < 3` with a variable read from the given place and a bound that was put in later. -/
def belowThree (name : String) (start : Nat) : Expr :=
  .apply ⟨start, 5⟩ (.binary .lt)
    [.ident ⟨start, 1⟩ ⟨name, some ⟨1⟩⟩, .literal .synthetic (.int 3)]

/-- `forall k :: x < 3` and `forall k :: y < 3` are similar if `x` and `y` have one handle. -/
theorem similar_iff_canonical_forms_agree_bounded :
    (quantified ⟨0, 17⟩ .forall [⟨"k", some ⟨2⟩⟩] (belowThree "x" 12)).similar
      (quantified ⟨40, 17⟩ .forall [⟨"k", some ⟨2⟩⟩] (belowThree "y" 52)) = true := by
  obtain ⟨hcanon, -, -, hequal, happly, hquantified⟩ := similar_iff_canonical_forms_agree
  have hvariable : (ident ⟨12, 1⟩ ⟨"x", some ⟨1⟩⟩).similar (.ident ⟨52, 1⟩ ⟨"y", some ⟨1⟩⟩) = true :=
    (hcanon _ _).mpr rfl
  have hbound := hequal (.literal .synthetic (.int 3)) _ rfl
  exact hquantified _ _ _ _ _ _ (happly _ _ _ _ _ (.cons hvariable (.cons hbound .nil)))

end Expr

end Graft
