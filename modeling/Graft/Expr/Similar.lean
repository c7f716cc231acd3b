import Graft.Expr.Basic

/-!
# Structural equality

Two expressions are *similar* when they are the same tree up to spans, with identifiers compared by
what they denote. Binders, symbols and literals are compared exactly. Similarity is equality of
canonical forms (`similar_iff_canon_eq`), hence an equivalence.
-/

namespace Graft

namespace Expr

/-! ## The comparison -/

mutual

/-- Tells whether two expressions are the same tree, spans left aside. -/
def similar : Expr → Expr → Bool
  | .ident _ id, .ident _ id' => id.same id'
  | .literal _ value, .literal _ value' => value == value'
  | .apply _ symbol args, .apply _ symbol' args' => symbol == symbol' && similars args args'
  | .quantified _ quantifier binders body, .quantified _ quantifier' binders' body' =>
    quantifier == quantifier' && binders == binders' && similar body body'
  | _, _ => false

/-- Tells whether two lists of expressions agree in length and position by position. -/
def similars : List Expr → List Expr → Bool
  | [], [] => true
  | expr :: rest, expr' :: rest' => similar expr expr' && similars rest rest'
  | _, _ => false

end

/-! ## Canonical forms -/

mutual

/-- Erases every span and the name of every resolved identifier occurrence. -/
def canon : Expr → Expr
  | .ident _ id => .ident .synthetic id.canon
  | .literal _ value => .literal .synthetic value
  | .apply _ symbol args => .apply .synthetic symbol (canons args)
  | .quantified _ quantifier binders body =>
    .quantified .synthetic quantifier binders (canon body)

def canons : List Expr → List Expr
  | [] => []
  | expr :: rest => canon expr :: canons rest

end

theorem canons_eq_map (exprs : List Expr) : canons exprs = exprs.map canon := by
  induction exprs with
  | nil => simp [canons]
  | cons expr rest ih => simp [canons, ih]

theorem canon_canon (expr : Expr) : expr.canon.canon = expr.canon := by
  induction expr using Expr.induction with
  | ident span id => rw [canon, canon, Ident.canon_canon]
  | literal span value => rfl
  | apply span symbol args argsIH =>
    rw [canon, canon, canons_eq_map, canons_eq_map, List.map_map]
    exact congrArg (apply .synthetic symbol) (List.map_congr_left argsIH)
  | quantified span quantifier binders body bodyIH => rw [canon, canon, bodyIH]

/-! ## Similarity is equality of canonical forms -/

theorem similars_iff_of {exprs : List Expr}
    (h : ∀ expr ∈ exprs, ∀ expr', similar expr expr' = true ↔ canon expr = canon expr') :
    ∀ exprs', similars exprs exprs' = true ↔ canons exprs = canons exprs' := by
  induction exprs with
  | nil => intro exprs'; cases exprs' <;> simp [similars, canons]
  | cons expr rest ih =>
    intro exprs'
    cases exprs' with
    | nil => simp [similars, canons]
    | cons expr' rest' =>
      simp [similars, canons, h expr (by simp), ih (fun e he => h e (List.mem_cons_of_mem _ he))]

theorem similar_iff_canon_eq (expr : Expr) :
    ∀ expr', similar expr expr' = true ↔ canon expr = canon expr' := by
  induction expr using Expr.induction with
  | ident span id =>
    intro expr'
    cases expr' <;> simp [similar, canon, Ident.same_iff_canon_eq]
  | literal span value => intro expr'; cases expr' <;> simp [similar, canon]
  | apply span symbol args argsIH =>
    intro expr'
    cases expr' <;> simp [similar, canon, similars_iff_of argsIH]
  | quantified span quantifier binders body bodyIH =>
    intro expr'
    cases expr' <;> simp [similar, canon, bodyIH, and_assoc]

/-- Canonical forms are similar when what they stand for is. -/
theorem similar_canon (expr expr' : Expr) : expr.canon.similar expr'.canon = expr.similar expr' := by
  rw [Bool.eq_iff_iff, similar_iff_canon_eq, similar_iff_canon_eq, canon_canon, canon_canon]

/-- Lists are similar when they agree in length and are similar at each place. -/
theorem similars_iff (exprs : List Expr) : ∀ exprs' : List Expr,
    similars exprs exprs' = true ↔ exprs.length = exprs'.length ∧
      ∀ (i : Nat) (expr expr' : Expr), exprs[i]? = some expr → exprs'[i]? = some expr' →
        similar expr expr' = true := by
  induction exprs with
  | nil => intro exprs'; cases exprs' <;> simp [similars]
  | cons expr rest ih =>
    intro exprs'
    cases exprs' with
    | nil => simp [similars]
    | cons expr' rest' =>
      rw [similars, Bool.and_eq_true, ih rest']
      refine ⟨?_, ?_⟩
      · rintro ⟨hfirst, hlength, hrest⟩
        refine ⟨congrArg Nat.succ hlength, ?_⟩
        intro i e e' he he'
        cases i with
        | zero =>
          cases he
          cases he'
          exact hfirst
        | succ i => exact hrest i e e' he he'
      · rintro ⟨hlength, hall⟩
        exact ⟨hall 0 expr expr' rfl rfl, Nat.succ.inj hlength,
          fun i e e' he he' => hall (i + 1) e e' he he'⟩

/-! ## What is similar to a node -/

theorem similar_ident_iff {span : Span} {id : Ident} {expr : Expr} :
    (ident span id).similar expr = true ↔
      ∃ span' id', expr = .ident span' id' ∧ id.same id' = true := by
  refine ⟨?_, ?_⟩
  · intro h
    cases expr with
    | ident span' id' => exact ⟨span', id', rfl, h⟩
    | _ => cases h
  · rintro ⟨span', id', rfl, h⟩
    exact h

theorem similar_literal_iff {span : Span} {value : Literal} {expr : Expr} :
    (literal span value).similar expr = true ↔ ∃ span', expr = .literal span' value := by
  refine ⟨?_, ?_⟩
  · intro h
    cases expr with
    | literal span' value' =>
      rw [similar, beq_iff_eq] at h
      rw [h]
      exact ⟨span', rfl⟩
    | _ => cases h
  · rintro ⟨span', rfl⟩
    exact beq_self_eq_true value

theorem similar_apply_iff {span : Span} {symbol : Symbol} {args : List Expr} {expr : Expr} :
    (apply span symbol args).similar expr = true ↔
      ∃ span' args', expr = .apply span' symbol args' ∧ similars args args' = true := by
  refine ⟨?_, ?_⟩
  · intro h
    cases expr with
    | apply span' symbol' args' =>
      rw [similar, Bool.and_eq_true, beq_iff_eq] at h
      rw [h.1]
      exact ⟨span', args', rfl, h.2⟩
    | _ => cases h
  · rintro ⟨span', args', rfl, h⟩
    rw [similar, h, beq_self_eq_true, Bool.and_true]

theorem similar_quantified_iff {span : Span} {quantifier : Quantifier} {binders : List Ident}
    {body expr : Expr} :
    (quantified span quantifier binders body).similar expr = true ↔ ∃ span' body',
      expr = .quantified span' quantifier binders body' ∧ body.similar body' = true := by
  refine ⟨?_, ?_⟩
  · intro h
    cases expr with
    | quantified span' quantifier' binders' body' =>
      rw [similar, Bool.and_eq_true, Bool.and_eq_true, beq_iff_eq, beq_iff_eq] at h
      rw [h.1.1, h.1.2]
      exact ⟨span', body', rfl, h.2⟩
    | _ => cases h
  · rintro ⟨span', body', rfl, h⟩
    rw [similar, h, beq_self_eq_true, beq_self_eq_true, Bool.and_true, Bool.and_true]

/-! ## An equivalence -/

theorem similar_refl (expr : Expr) : similar expr expr = true :=
  (similar_iff_canon_eq expr expr).mpr rfl

theorem similars_refl (exprs : List Expr) : similars exprs exprs = true := by
  induction exprs with
  | nil => rfl
  | cons expr rest ih =>
    rw [similars, similar_refl, ih]
    rfl

theorem similar_symm {expr expr' : Expr} (h : similar expr expr' = true) :
    similar expr' expr = true :=
  (similar_iff_canon_eq expr' expr).mpr ((similar_iff_canon_eq expr expr').mp h).symm

theorem similar_trans {a b c : Expr} (hab : similar a b = true) (hbc : similar b c = true) :
    similar a c = true :=
  (similar_iff_canon_eq a c).mpr
    (((similar_iff_canon_eq a b).mp hab).trans ((similar_iff_canon_eq b c).mp hbc))

/-- Similar expressions are similar to the same ones. -/
theorem similar_congr_left {a b : Expr} (hab : similar a b = true) (c : Expr) :
    similar a c = true ↔ similar b c = true :=
  ⟨fun hac => similar_trans (similar_symm hab) hac, fun hbc => similar_trans hab hbc⟩

/-! ## Identifiers -/

theorem similar_ident_of_decl_eq {span span' : Span} {id id' : Ident} {handle : Handle}
    (hdecl : id.decl = some handle) (hdecl' : id'.decl = some handle) :
    similar (.ident span id) (.ident span' id') = true := by
  rw [similar, Ident.same, hdecl, hdecl']
  exact beq_self_eq_true handle

theorem ident?_of_similar {expr expr' : Expr} {id : Ident} (h : expr.similar expr' = true)
    (hident : expr'.ident? = some id) : ∃ id', expr.ident? = some id' ∧ id'.same id = true := by
  rcases ident?_eq_some_iff.mp hident with ⟨span, rfl⟩
  cases expr with
  | ident span' id' => exact ⟨id', rfl, h⟩
  | _ => cases h

theorem isSome_ident?_canon (expr : Expr) : expr.canon.ident?.isSome = expr.ident?.isSome := by
  cases expr <;> rfl

theorem isSome_ident?_of_similar {expr expr' : Expr} (h : expr.similar expr' = true) :
    expr.ident?.isSome = expr'.ident?.isSome := by
  rw [← isSome_ident?_canon, (similar_iff_canon_eq expr expr').mp h, isSome_ident?_canon]

end Expr

end Graft
