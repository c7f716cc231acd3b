import Graft.Expr.Path

/-!
# Binders and symbols of an expression

What an expression binds and what it applies, at any depth and in pre-order.
-/

namespace Graft

namespace Expr

mutual

/-- The binders of every quantifier of an expression. -/
def binders : Expr → List Ident
  | .ident _ _ => []
  | .literal _ _ => []
  | .apply _ _ args => bindersAll args
  | .quantified _ _ bound body => bound ++ binders body

def bindersAll : List Expr → List Ident
  | [] => []
  | expr :: rest => binders expr ++ bindersAll rest

end

mutual

/-- The symbol of every application of an expression. -/
def symbols : Expr → List Symbol
  | .ident _ _ => []
  | .literal _ _ => []
  | .apply _ symbol args => symbol :: symbolsAll args
  | .quantified _ _ _ body => symbols body

def symbolsAll : List Expr → List Symbol
  | [] => []
  | expr :: rest => symbols expr ++ symbolsAll rest

end

theorem bindersAll_eq_flatMap (exprs : List Expr) : bindersAll exprs = exprs.flatMap binders := by
  induction exprs with
  | nil => rfl
  | cons expr rest ih => rw [bindersAll, ih, List.flatMap_cons]

theorem symbolsAll_eq_flatMap (exprs : List Expr) : symbolsAll exprs = exprs.flatMap symbols := by
  induction exprs with
  | nil => rfl
  | cons expr rest ih => rw [symbolsAll, ih, List.flatMap_cons]

@[simp] theorem binders_ident (span : Span) (id : Ident) : (ident span id).binders = [] := rfl

@[simp] theorem binders_literal (span : Span) (value : Literal) :
    (literal span value).binders = [] := rfl

@[simp] theorem binders_apply (span : Span) (symbol : Symbol) (args : List Expr) :
    (apply span symbol args).binders = args.flatMap binders := bindersAll_eq_flatMap args

@[simp] theorem binders_quantified (span : Span) (quantifier : Quantifier) (bound : List Ident)
    (body : Expr) : (quantified span quantifier bound body).binders = bound ++ body.binders := rfl

@[simp] theorem symbols_ident (span : Span) (id : Ident) : (ident span id).symbols = [] := rfl

@[simp] theorem symbols_literal (span : Span) (value : Literal) :
    (literal span value).symbols = [] := rfl

@[simp] theorem symbols_apply (span : Span) (symbol : Symbol) (args : List Expr) :
    (apply span symbol args).symbols = symbol :: args.flatMap symbols :=
  congrArg (symbol :: ·) (symbolsAll_eq_flatMap args)

@[simp] theorem symbols_quantified (span : Span) (quantifier : Quantifier) (bound : List Ident)
    (body : Expr) : (quantified span quantifier bound body).symbols = body.symbols := rfl

theorem binders_subset_of_mem {span : Span} {symbol : Symbol} {args : List Expr} {arg : Expr}
    (harg : arg ∈ args) : arg.binders ⊆ (apply span symbol args).binders := by
  intro binder hbinder
  rw [binders_apply]
  exact List.mem_flatMap.mpr ⟨arg, harg, hbinder⟩

theorem binders_subset_of_at? {expr node : Expr} {π : Path} (h : expr.at? π = some node) :
    node.binders ⊆ expr.binders := by
  refine subset_of_at? (f := binders) ?_ ?_ h
  · intro span symbol args arg harg
    exact binders_subset_of_mem harg
  · intro span quantifier bound body
    exact List.subset_append_right bound body.binders

theorem symbols_subset_of_at? {expr node : Expr} {π : Path} (h : expr.at? π = some node) :
    node.symbols ⊆ expr.symbols := by
  refine subset_of_at? (f := symbols) ?_ ?_ h
  · intro span symbol args arg harg symbol' hsymbol
    rw [symbols_apply]
    exact List.mem_cons_of_mem _ (List.mem_flatMap.mpr ⟨arg, harg, hsymbol⟩)
  · intro span quantifier bound body
    exact List.Subset.refl _

theorem mem_binders_iff {expr : Expr} {binder : Ident} :
    binder ∈ expr.binders ↔ ∃ π span quantifier bound body,
      expr.at? π = some (.quantified span quantifier bound body) ∧ binder ∈ bound := by
  refine ⟨?_, ?_⟩
  · intro h
    have hbody : ∀ span quantifier bound body,
        ∀ binder ∈ (quantified span quantifier bound body).binders,
          (∃ s q b e, quantified span quantifier bound body = .quantified s q b e ∧ binder ∈ b) ∨
            binder ∈ body.binders := by
      intro span quantifier bound body binder hmem
      rcases List.mem_append.mp hmem with hbound | hbody
      · exact .inl ⟨span, quantifier, bound, body, rfl, hbound⟩
      · exact .inr hbody
    have hfound := exists_at?_of_mem (f := binders)
      (R := fun node binder => ∃ s q b e, node = .quantified s q b e ∧ binder ∈ b)
      (by simp) (by simp) (by simp) hbody expr binder h
    rcases hfound with ⟨π, _, hnode, span, quantifier, bound, body, rfl, hbinder⟩
    exact ⟨π, span, quantifier, bound, body, hnode, hbinder⟩
  · rintro ⟨π, span, quantifier, bound, body, hnode, hbinder⟩
    exact binders_subset_of_at? hnode (List.mem_append_left _ hbinder)

theorem mem_symbols_iff {expr : Expr} {symbol : Symbol} :
    symbol ∈ expr.symbols ↔ ∃ π span args, expr.at? π = some (.apply span symbol args) := by
  refine ⟨?_, ?_⟩
  · intro h
    have hargs : ∀ span f args, ∀ symbol ∈ (apply span f args).symbols,
        (∃ s a, apply span f args = .apply s symbol a) ∨ ∃ arg ∈ args, symbol ∈ arg.symbols := by
      intro span f args symbol hmem
      rw [symbols_apply, List.mem_cons, List.mem_flatMap] at hmem
      rcases hmem with rfl | harg
      · exact .inl ⟨span, args, rfl⟩
      · exact .inr harg
    have hfound := exists_at?_of_mem (f := symbols)
      (R := fun node symbol => ∃ s a, node = .apply s symbol a)
      (by simp) (by simp) hargs (by simp) expr symbol h
    rcases hfound with ⟨π, _, hnode, span, args, rfl⟩
    exact ⟨π, span, args, hnode⟩
  · rintro ⟨π, span, args, hnode⟩
    refine symbols_subset_of_at? hnode ?_
    rw [symbols_apply]
    exact List.mem_cons_self

end Expr

end Graft
