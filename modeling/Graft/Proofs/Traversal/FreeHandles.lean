import Graft.Traversal.Identifiers

/-!
# Free handles, part by part

The finder carries one stack of bound handles through the whole walk. Each part of an expression
leaves the stack as it was and adds the handles that it uses free, less those on the stack
(`adds_freeDecls`), so the free handles of an expression are told by those of its parts.
-/

namespace Graft

/-- Holds when a search is continued by finding those of the given handles that are not bound around
it. -/
structure FreeSearch.Adds (handles : Handle → Prop) (search reached : FreeSearch) : Prop where
  bound : reached.bound = search.bound
  mem_free_iff : ∀ handle,
    handle ∈ reached.free ↔ handle ∈ search.free ∨ handles handle ∧ handle ∉ search.bound

namespace FreeSearch.Adds

variable {search middle reached : FreeSearch} {handles handles' : Handle → Prop}

theorem nothing (search : FreeSearch) : Adds (fun _ => False) search search where
  bound := rfl
  mem_free_iff handle := by simp

theorem trans (h : Adds handles search middle) (h' : Adds handles' middle reached) :
    Adds (fun handle => handles handle ∨ handles' handle) search reached where
  bound := h'.bound.trans h.bound
  mem_free_iff handle := by
    rw [h'.mem_free_iff, h.mem_free_iff, h.bound, or_assoc, or_and_right]

/-- It does not matter what is said of handles that are bound around the search. -/
theorem congr (h : Adds handles search reached)
    (hiff : ∀ handle, handle ∉ search.bound → (handles handle ↔ handles' handle)) :
    Adds handles' search reached where
  bound := h.bound
  mem_free_iff handle := by rw [h.mem_free_iff, and_congr_left (hiff handle)]

end FreeSearch.Adds

namespace Expr

theorem adds_ident (span : Span) (id : Ident) (search : FreeSearch) :
    FreeSearch.Adds (fun handle => id.decl = some handle) search
      (Visitor.freeFinder.expr (.ident span id) search) := by
  change FreeSearch.Adds _ search (Visitor.freeFinder.enter (.ident id) search)
  simp only [Visitor.freeFinder]
  cases id.decl with
  | none => exact (FreeSearch.Adds.nothing search).congr fun handle _ => by simp
  | some own =>
    simp only [Option.some.injEq]
    -- a handle that is on the stack already is passed over
    by_cases hbound : own ∈ search.bound
    · rw [if_pos hbound]
      refine (FreeSearch.Adds.nothing search).congr ?_
      intro handle hnot
      rw [false_iff]
      rintro rfl
      exact hnot hbound
    · rw [if_neg hbound]
      constructor
      · rfl
      · intro handle
        rw [Std.ExtTreeSet.mem_insert, Std.compare_eq_iff_eq]
        constructor
        · intro h
          rcases h with rfl | hfree
          · exact .inr ⟨rfl, hbound⟩
          · exact .inl hfree
        · intro h
          rcases h with hfree | ⟨rfl, -⟩
          · exact .inr hfree
          · exact .inl rfl

theorem adds_literal (span : Span) (value : Literal) (search : FreeSearch) :
    FreeSearch.Adds (fun _ => False) search
      (Visitor.freeFinder.expr (.literal span value) search) :=
  FreeSearch.Adds.nothing search

theorem adds_exprs_of {handles : Expr → Handle → Prop} {exprs : List Expr}
    (h : ∀ expr ∈ exprs, ∀ search,
      FreeSearch.Adds (handles expr) search (Visitor.freeFinder.expr expr search)) :
    ∀ search, FreeSearch.Adds (fun handle => ∃ expr ∈ exprs, handles expr handle) search
      (Visitor.freeFinder.exprs exprs search) := by
  induction exprs with
  | nil => intro search; exact (FreeSearch.Adds.nothing search).congr fun handle _ => by simp
  | cons expr rest ih =>
    intro search
    have hfirst := h expr List.mem_cons_self search
    have hrest := ih fun e he => h e (List.mem_cons_of_mem _ he)
    exact (hfirst.trans (hrest _)).congr fun handle _ => by simp

theorem adds_apply_of {handles : Expr → Handle → Prop} {args : List Expr}
    (h : ∀ arg ∈ args, ∀ search,
      FreeSearch.Adds (handles arg) search (Visitor.freeFinder.expr arg search))
    (span : Span) (symbol : Symbol) (search : FreeSearch) :
    FreeSearch.Adds (fun handle => ∃ arg ∈ args, handles arg handle) search
      (Visitor.freeFinder.expr (.apply span symbol args) search) :=
  adds_exprs_of h search

/-- The stack is cut back to the depth that it had before, however many handles a quantifier has
pushed, and whether or not they were on it already. -/
theorem adds_quantified_of {handles : Handle → Prop} {body : Expr}
    (h : ∀ search, FreeSearch.Adds handles search (Visitor.freeFinder.expr body search))
    (span : Span) (quantifier : Quantifier) (binders : List Ident) (search : FreeSearch) :
    FreeSearch.Adds (fun handle => handles handle ∧ some handle ∉ binders.map Ident.decl) search
      (Visitor.freeFinder.expr (.quantified span quantifier binders body) search) := by
  let entered : FreeSearch :=
    { search with bound := (binders.filterMap Ident.decl).reverse ++ search.bound }
  have hbody := h entered
  let reached := Visitor.freeFinder.expr body entered
  change FreeSearch.Adds _ search
    { reached with bound := reached.bound.drop (reached.bound.length - search.bound.length) }
  constructor
  · -- the body leaves the pushed handles on top, and just these are dropped
    change reached.bound.drop (reached.bound.length - search.bound.length) = search.bound
    rw [hbody.bound, List.length_append, Nat.add_sub_cancel, List.drop_left]
  · intro handle
    have hentered : handle ∉ entered.bound ↔
        some handle ∉ binders.map Ident.decl ∧ handle ∉ search.bound := by
      rw [List.mem_append, not_or, List.mem_reverse, List.mem_filterMap, List.mem_map]
    rw [and_assoc, ← hentered]
    exact hbody.mem_free_iff handle

section OfAdds

variable {handles : Handle → Prop} {expr : Expr}

theorem mem_freeDecls_iff_of_adds
    (h : ∀ search, FreeSearch.Adds handles search (Visitor.freeFinder.expr expr search))
    (handle : Handle) : handle ∈ expr.freeDecls ↔ handles handle := by
  have hnew := (h ⟨[], ∅⟩).mem_free_iff handle
  simpa [freeDecls] using hnew

/-- What a walk adds to every search, it adds to the empty one. -/
theorem adds_freeDecls_of
    (h : ∀ search, FreeSearch.Adds handles search (Visitor.freeFinder.expr expr search)) :
    ∀ search, FreeSearch.Adds (· ∈ expr.freeDecls) search (Visitor.freeFinder.expr expr search) :=
  fun search => (h search).congr fun handle _ => (mem_freeDecls_iff_of_adds h handle).symm

end OfAdds

/-- A search is continued by the handles that an expression uses free. -/
theorem adds_freeDecls (expr : Expr) : ∀ search, FreeSearch.Adds (· ∈ expr.freeDecls) search
    (Visitor.freeFinder.expr expr search) := by
  induction expr using Expr.induction with
  | ident span id => exact adds_freeDecls_of (adds_ident span id)
  | literal span value => exact adds_freeDecls_of (adds_literal span value)
  | apply span symbol args argsIH => exact adds_freeDecls_of (adds_apply_of argsIH span symbol)
  | quantified span quantifier binders body bodyIH =>
    exact adds_freeDecls_of (adds_quantified_of bodyIH span quantifier binders)

/-! ## Membership -/

variable {handle : Handle}

@[simp] theorem mem_freeDecls_ident {span : Span} {id : Ident} :
    handle ∈ (ident span id).freeDecls ↔ id.decl = some handle :=
  mem_freeDecls_iff_of_adds (adds_ident span id) handle

@[simp] theorem not_mem_freeDecls_literal {span : Span} {value : Literal} :
    handle ∉ (literal span value).freeDecls :=
  (mem_freeDecls_iff_of_adds (adds_literal span value) handle).mp

@[simp] theorem mem_freeDecls_apply {span : Span} {symbol : Symbol} {args : List Expr} :
    handle ∈ (apply span symbol args).freeDecls ↔ ∃ arg ∈ args, handle ∈ arg.freeDecls :=
  mem_freeDecls_iff_of_adds (adds_apply_of (fun arg _ => adds_freeDecls arg) span symbol) handle

@[simp] theorem mem_freeDecls_quantified {span : Span} {quantifier : Quantifier}
    {binders : List Ident} {body : Expr} :
    handle ∈ (quantified span quantifier binders body).freeDecls ↔
      handle ∈ body.freeDecls ∧ some handle ∉ binders.map Ident.decl :=
  mem_freeDecls_iff_of_adds (adds_quantified_of (adds_freeDecls body) span quantifier binders) handle

end Expr

end Graft
