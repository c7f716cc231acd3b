import Graft.Expr.Place
import Graft.Proofs.Traversal.FreeHandles
import Graft.Proofs.Traversal.Identifiers

/-!
# Free occurrences

A handle is free in an expression if and only if some identifier with the handle stands where no
quantifier around it binds the handle (`Expr.freeDecls_are_free_occurrences`). The stack of bound
handles finds these handles from whatever stack and set it starts with, and so does the set that is
put together part by part.
-/

namespace Graft

namespace Expr

/-- Holds of a path that leads into the body of a quantifier that has a binder with the given
handle. -/
def BoundAlong (expr : Expr) (handle : Handle) (π : Path) : Prop :=
  ∃ ρ, ρ ++ [0] <+: π ∧ expr.BindsAt ρ handle

/-- Holds of a path to an identifier with the given handle that lies in no body of a quantifier that
has a binder with the handle. -/
def OccursFreeAt (expr : Expr) (handle : Handle) (π : Path) : Prop :=
  (∃ span id, expr.at? π = some (.ident span id) ∧ id.decl = some handle) ∧
    ¬ expr.BoundAlong handle π

variable {span : Span} {symbol : Symbol} {args : List Expr} {arg : Expr} {quantifier : Quantifier}
  {binders : List Ident} {body : Expr} {i : Nat} {π : Path} {handle : Handle}

/-! ## Binding along a path -/

@[simp] theorem not_boundAlong_nil (expr : Expr) : ¬ expr.BoundAlong handle [] := by
  intro h
  obtain ⟨ρ, hρ, -⟩ := h
  exact List.append_ne_nil_of_right_ne_nil ρ (List.cons_ne_nil 0 []) (List.prefix_nil.mp hρ)

/-- An application binds nothing, so it is the rest of the path that matters. -/
theorem boundAlong_apply_cons_iff (hi : args[i]? = some arg) :
    (apply span symbol args).BoundAlong handle (i :: π) ↔ arg.BoundAlong handle π := by
  constructor
  · intro h
    obtain ⟨ρ, hρ, hbinds⟩ := h
    cases ρ with
    | nil =>
      obtain ⟨_, _, _, _, hquantifier, -⟩ := hbinds
      cases hquantifier
    | cons j ρ =>
      obtain ⟨rfl, hrest⟩ := List.cons_prefix_cons.mp hρ
      rw [BindsAt, at?_apply_cons_of hi] at hbinds
      exact ⟨ρ, hrest, hbinds⟩
  · intro h
    obtain ⟨ρ, hρ, hbinds⟩ := h
    rw [BindsAt, ← at?_apply_cons_of hi] at hbinds
    exact ⟨i :: ρ, List.cons_prefix_cons.mpr ⟨rfl, hρ⟩, hbinds⟩

theorem bindsAt_nil_iff :
    (quantified span quantifier binders body).BindsAt [] handle ↔
      some handle ∈ binders.map Ident.decl := by
  constructor
  · intro h
    obtain ⟨_, _, _, _, hroot, hmem⟩ := h
    cases hroot
    exact hmem
  · intro hmem
    exact ⟨_, _, _, _, rfl, hmem⟩

/-- In the body of a quantifier a handle is bound by the quantifier itself or further inside. -/
theorem boundAlong_quantified_cons_iff :
    (quantified span quantifier binders body).BoundAlong handle (0 :: π) ↔
      some handle ∈ binders.map Ident.decl ∨ body.BoundAlong handle π := by
  constructor
  · intro h
    obtain ⟨ρ, hρ, hbinds⟩ := h
    cases ρ with
    | nil => exact .inl (bindsAt_nil_iff.mp hbinds)
    | cons j ρ =>
      obtain ⟨rfl, hrest⟩ := List.cons_prefix_cons.mp hρ
      exact .inr ⟨ρ, hrest, hbinds⟩
  · intro h
    cases h with
    | inl hmem =>
      exact ⟨[], List.cons_prefix_cons.mpr ⟨rfl, List.nil_prefix⟩, bindsAt_nil_iff.mpr hmem⟩
    | inr hinside =>
      obtain ⟨ρ, hρ, hbinds⟩ := hinside
      exact ⟨0 :: ρ, List.cons_prefix_cons.mpr ⟨rfl, hρ⟩, hbinds⟩

/-! ## Free occurrences, part by part -/

theorem exists_occursFreeAt_ident_iff {id : Ident} :
    (∃ π, (ident span id).OccursFreeAt handle π) ↔ id.decl = some handle := by
  constructor
  · intro h
    obtain ⟨π, ⟨span', id', hat, hdecl⟩, -⟩ := h
    cases π with
    | nil =>
      cases hat
      exact hdecl
    | cons i π => cases hat
  · intro hdecl
    exact ⟨[], ⟨span, id, rfl, hdecl⟩, not_boundAlong_nil _⟩

theorem not_occursFreeAt_literal {value : Literal} : ¬ (literal span value).OccursFreeAt handle π := by
  intro h
  obtain ⟨⟨span', id, hat, -⟩, -⟩ := h
  cases π <;> cases hat

theorem exists_occursFreeAt_apply_iff :
    (∃ π, (apply span symbol args).OccursFreeAt handle π) ↔
      ∃ arg ∈ args, ∃ π, arg.OccursFreeAt handle π := by
  constructor
  · intro h
    obtain ⟨π, ⟨span', id, hat, hdecl⟩, hfree⟩ := h
    cases π with
    | nil => cases hat
    | cons i π =>
      obtain ⟨arg, hi, hat⟩ := atAll?_eq_some_iff.mp hat
      rw [boundAlong_apply_cons_iff hi] at hfree
      exact ⟨arg, List.mem_of_getElem? hi, π, ⟨span', id, hat, hdecl⟩, hfree⟩
  · intro h
    obtain ⟨arg, harg, π, ⟨span', id, hat, hdecl⟩, hfree⟩ := h
    obtain ⟨i, hi⟩ := List.mem_iff_getElem?.mp harg
    rw [← boundAlong_apply_cons_iff hi] at hfree
    exact ⟨i :: π, ⟨span', id, atAll?_eq_some_iff.mpr ⟨arg, hi, hat⟩, hdecl⟩, hfree⟩

theorem exists_occursFreeAt_quantified_iff :
    (∃ π, (quantified span quantifier binders body).OccursFreeAt handle π) ↔
      (∃ π, body.OccursFreeAt handle π) ∧ some handle ∉ binders.map Ident.decl := by
  constructor
  · intro h
    obtain ⟨π, ⟨span', id, hat, hdecl⟩, hfree⟩ := h
    match π with
    | [] => cases hat
    | 0 :: π =>
      rw [boundAlong_quantified_cons_iff, not_or] at hfree
      exact ⟨⟨π, ⟨span', id, hat, hdecl⟩, hfree.2⟩, hfree.1⟩
    | (i + 1) :: π => cases hat
  · intro h
    obtain ⟨⟨π, hid, hfree⟩, hnot⟩ := h
    refine ⟨0 :: π, hid, ?_⟩
    rw [boundAlong_quantified_cons_iff, not_or]
    exact ⟨hnot, hfree⟩

/-- What the finder finds is what occurs free. -/
theorem mem_freeDecls_iff (expr : Expr) :
    handle ∈ expr.freeDecls ↔ ∃ π, expr.OccursFreeAt handle π := by
  induction expr using Expr.induction with
  | ident span id => rw [mem_freeDecls_ident, exists_occursFreeAt_ident_iff]
  | literal span value =>
    refine iff_of_false not_mem_freeDecls_literal ?_
    rintro ⟨π, hfree⟩
    exact not_occursFreeAt_literal hfree
  | apply span symbol args argsIH =>
    rw [mem_freeDecls_apply, exists_occursFreeAt_apply_iff]
    exact exists_congr fun arg => and_congr_right fun harg => argsIH arg harg
  | quantified span quantifier binders body bodyIH =>
    rw [mem_freeDecls_quantified, exists_occursFreeAt_quantified_iff, bodyIH]

/-! ## The set put together part by part -/

theorem mem_freeHandlesAll_iff {exprs : List Expr} :
    handle ∈ freeHandlesAll exprs ↔ ∃ expr ∈ exprs, handle ∈ expr.freeHandles := by
  induction exprs with
  | nil => simp [freeHandlesAll]
  | cons expr rest ih => simp [freeHandlesAll, ih]

theorem freeDecls_eq_freeHandles (expr : Expr) : expr.freeDecls = expr.freeHandles := by
  apply Std.ExtTreeSet.ext_mem
  intro handle
  induction expr using Expr.induction with
  | ident span id => simp [freeHandles]
  | literal span value => simp [freeHandles]
  | apply span symbol args argsIH =>
    rw [mem_freeDecls_apply, freeHandles, mem_freeHandlesAll_iff]
    exact exists_congr fun arg => and_congr_right fun harg => argsIH arg harg
  | quantified span quantifier binders body bodyIH =>
    rw [mem_freeDecls_quantified, bodyIH]
    simp [freeHandles]

/-! ## Free handles and free occurrences -/

/-- The free handles of an expression are those of the identifiers that stand in no body of a
quantifier binding the handle. The finder and the sets put together part by part agree on them, and a
walk that starts with any stack leaves it as it was and adds those that are not on it. A handle that
occurs but is not free is bound around each of its occurrences. -/
theorem freeDecls_are_free_occurrences (expr : Expr) :
    (∀ handle, handle ∈ expr.freeDecls ↔ ∃ π, expr.OccursFreeAt handle π) ∧
    expr.freeDecls = expr.freeHandles ∧
    (∀ search, FreeSearch.Adds (· ∈ expr.freeHandles) search
      (Visitor.freeFinder.expr expr search)) ∧
    ∀ id ∈ expr.identifiers, ∀ handle, id.decl = some handle → handle ∉ expr.freeDecls →
      ∀ π span id', expr.at? π = some (.ident span id') → id'.decl = some handle →
        expr.BoundAlong handle π := by
  refine ⟨fun handle => expr.mem_freeDecls_iff, expr.freeDecls_eq_freeHandles, ?_, ?_⟩
  · rw [← freeDecls_eq_freeHandles]
    exact expr.adds_freeDecls
  · intro id _ handle _ hnotFree π span id' hat hdecl
    by_contra hnotBound
    exact hnotFree (expr.mem_freeDecls_iff.mpr ⟨π, ⟨span, id', hat, hdecl⟩, hnotBound⟩)

/-- `p(x, forall y, y :: q(x, exists y :: y))`, where `x` and `y` have one handle each. -/
def reboundTwice : Expr :=
  let x : Ident := ⟨"x", some ⟨1⟩⟩
  let y : Ident := ⟨"y", some ⟨2⟩⟩
  .apply .synthetic (.call "p" none)
    [.ident .synthetic x,
      .quantified .synthetic .forall [y, y]
        (.apply .synthetic (.call "q" none)
          [.ident .synthetic x, .quantified .synthetic .exists [y] (.ident .synthetic y)])]

/-- Only `x` is free, so `y` is bound where it occurs. -/
theorem freeDecls_are_free_occurrences_rebound :
    reboundTwice.freeDecls = {⟨1⟩} ∧ reboundTwice.BoundAlong ⟨2⟩ [1, 0, 1, 0] := by
  have hfree : reboundTwice.freeDecls = {⟨1⟩} := rfl
  have hnot : ⟨2⟩ ∉ reboundTwice.freeDecls := by
    rw [hfree]
    decide
  obtain ⟨-, -, -, hbound⟩ := freeDecls_are_free_occurrences reboundTwice
  exact ⟨hfree, hbound ⟨"y", some ⟨2⟩⟩ (by decide) ⟨2⟩ rfl hnot _ _ _ rfl rfl⟩

end Expr

end Graft
