import Graft.Expr.Basic

/-!
# Paths

A path is the way from the root of an expression to one of its nodes: at each step the place of the
argument that is entered, or zero for the body of a quantifier. Compared as lists, paths come in the
order in which a walk meets their nodes (`paths_pairwise_lt`).
-/

namespace Graft

/-- The way from the root of an expression to a node. -/
abbrev Path := List Nat

namespace Expr

def at? : Expr → Path → Option Expr
  | expr, [] => some expr
  | .apply _ _ args, i :: π => args[i]?.bind fun arg => at? arg π
  | .quantified _ _ _ body, 0 :: π => at? body π
  | _, _ :: _ => none

/-- The node that a path leads to from the expression at a place in a row. -/
def atAll? (exprs : List Expr) : Nat × Path → Option Expr
  | (i, π) => exprs[i]?.bind fun expr => expr.at? π

mutual

/-- The paths to the nodes of an expression, in pre-order. -/
def paths : Expr → List Path
  | .ident _ _ => [[]]
  | .literal _ _ => [[]]
  | .apply _ _ args => [] :: (pathsAll args).map fun (i, π) => i :: π
  | .quantified _ _ _ body => [] :: (paths body).map fun π => 0 :: π

/-- The paths to the nodes of a row of expressions, each behind the place of its expression. -/
def pathsAll : List Expr → List (Nat × Path)
  | [] => []
  | expr :: rest =>
    (paths expr).map (fun π => (0, π)) ++ (pathsAll rest).map fun (i, π) => (i + 1, π)

end

/-! ## The node at the end of a path -/

@[simp] theorem at?_nil (expr : Expr) : expr.at? [] = some expr := by
  cases expr <;> rfl

@[simp] theorem at?_ident_cons (span : Span) (id : Ident) (i : Nat) (π : Path) :
    (ident span id).at? (i :: π) = none := rfl

@[simp] theorem at?_literal_cons (span : Span) (value : Literal) (i : Nat) (π : Path) :
    (literal span value).at? (i :: π) = none := rfl

@[simp] theorem at?_apply_cons (span : Span) (symbol : Symbol) (args : List Expr) (i : Nat)
    (π : Path) : (apply span symbol args).at? (i :: π) = atAll? args (i, π) := rfl

@[simp] theorem at?_quantified_zero_cons (span : Span) (quantifier : Quantifier)
    (binders : List Ident) (body : Expr) (π : Path) :
    (quantified span quantifier binders body).at? (0 :: π) = body.at? π := rfl

@[simp] theorem at?_quantified_succ_cons (span : Span) (quantifier : Quantifier)
    (binders : List Ident) (body : Expr) (i : Nat) (π : Path) :
    (quantified span quantifier binders body).at? ((i + 1) :: π) = none := rfl

@[simp] theorem atAll?_nil (path : Nat × Path) : atAll? [] path = none := rfl

@[simp] theorem atAll?_cons_zero (expr : Expr) (rest : List Expr) (π : Path) :
    atAll? (expr :: rest) (0, π) = expr.at? π := rfl

@[simp] theorem atAll?_cons_succ (expr : Expr) (rest : List Expr) (i : Nat) (π : Path) :
    atAll? (expr :: rest) (i + 1, π) = atAll? rest (i, π) := rfl

theorem at?_apply_cons_of {span : Span} {symbol : Symbol} {args : List Expr} {arg : Expr} {i : Nat}
    (hi : args[i]? = some arg) (π : Path) : (apply span symbol args).at? (i :: π) = arg.at? π := by
  rw [at?_apply_cons, atAll?, hi, Option.bind_some]

theorem atAll?_eq_some_iff {exprs : List Expr} {i : Nat} {π : Path} {node : Expr} :
    atAll? exprs (i, π) = some node ↔ ∃ expr, exprs[i]? = some expr ∧ expr.at? π = some node :=
  Option.bind_eq_some_iff

/-- A path in two parts leads to the node that its second part leads to from the end of the first. -/
theorem at?_append (expr : Expr) (π ρ : Path) :
    expr.at? (π ++ ρ) = (expr.at? π).bind fun node => node.at? ρ := by
  induction π generalizing expr with
  | nil => rw [List.nil_append, at?_nil, Option.bind_some]
  | cons i π ih =>
    rw [List.cons_append]
    cases expr with
    | ident span id => rfl
    | literal span value => rfl
    | apply span symbol args =>
      rw [at?_apply_cons, at?_apply_cons, atAll?, atAll?]
      cases args[i]? with
      | none => rfl
      | some arg => exact ih arg
    | quantified span quantifier binders body =>
      cases i with
      | zero => exact ih body
      | succ i => rfl

/-- What a list collects from every part of an expression, it collects from every node. -/
theorem subset_of_at? {α : Type} {f : Expr → List α}
    (hargs : ∀ span symbol args, ∀ arg ∈ args, f arg ⊆ f (.apply span symbol args))
    (hbody : ∀ span quantifier binders body,
      f body ⊆ f (.quantified span quantifier binders body)) {expr node : Expr} {π : Path}
    (h : expr.at? π = some node) : f node ⊆ f expr := by
  induction π generalizing expr with
  | nil =>
    rw [at?_nil, Option.some.injEq] at h
    rw [h]
    exact List.Subset.refl _
  | cons i π ih =>
    cases expr with
    | ident span id => cases h
    | literal span value => cases h
    | apply span symbol args =>
      rcases atAll?_eq_some_iff.mp h with ⟨arg, harg, hnode⟩
      exact List.Subset.trans (ih hnode)
        (hargs span symbol args arg (List.mem_of_getElem? harg))
    | quantified span quantifier binders body =>
      cases i with
      | zero => exact List.Subset.trans (ih h) (hbody span quantifier binders body)
      | succ i => cases h

/-- What a list collects only from nodes stands at one of them. -/
theorem exists_at?_of_mem {α : Type} {f : Expr → List α} {R : Expr → α → Prop}
    (hident : ∀ span id, ∀ a ∈ f (.ident span id), R (.ident span id) a)
    (hliteral : ∀ span value, ∀ a ∈ f (.literal span value), R (.literal span value) a)
    (hargs : ∀ span symbol args, ∀ a ∈ f (.apply span symbol args),
      R (.apply span symbol args) a ∨ ∃ arg ∈ args, a ∈ f arg)
    (hbody : ∀ span quantifier binders body, ∀ a ∈ f (.quantified span quantifier binders body),
      R (.quantified span quantifier binders body) a ∨ a ∈ f body) (expr : Expr) :
    ∀ a ∈ f expr, ∃ π node, expr.at? π = some node ∧ R node a := by
  induction expr using Expr.induction with
  | ident span id =>
    intro a ha
    exact ⟨[], _, at?_nil _, hident span id a ha⟩
  | literal span value =>
    intro a ha
    exact ⟨[], _, at?_nil _, hliteral span value a ha⟩
  | apply span symbol args argsIH =>
    intro a ha
    rcases hargs span symbol args a ha with hown | ⟨arg, harg, hmem⟩
    · exact ⟨[], _, at?_nil _, hown⟩
    · rcases argsIH arg harg a hmem with ⟨π, node, hnode, hown⟩
      rcases List.mem_iff_getElem?.mp harg with ⟨i, hi⟩
      exact ⟨i :: π, node, atAll?_eq_some_iff.mpr ⟨arg, hi, hnode⟩, hown⟩
  | quantified span quantifier binders body bodyIH =>
    intro a ha
    rcases hbody span quantifier binders body a ha with hown | hmem
    · exact ⟨[], _, at?_nil _, hown⟩
    · rcases bodyIH a hmem with ⟨π, node, hnode, hown⟩
      exact ⟨0 :: π, node, hnode, hown⟩

/-! ## Outside quantifiers -/

/-- Holds of a path that enters no quantifier: none stands at the end of a shorter part of it. -/
def OutsideQuantifiers (expr : Expr) (π : Path) : Prop :=
  ∀ ρ, ρ <+: π → ρ ≠ π → (expr.at? ρ).map kind ≠ some .quantifier

theorem outsideQuantifiers_nil (expr : Expr) : expr.OutsideQuantifiers [] :=
  fun _ hρ hne => absurd (List.prefix_nil.mp hρ) hne

/-- An application is no quantifier, so a path through it is outside exactly if its rest is. -/
theorem outsideQuantifiers_apply_cons_iff {span : Span} {symbol : Symbol} {args : List Expr}
    {arg : Expr} {i : Nat} {π : Path} (hi : args[i]? = some arg) :
    (apply span symbol args).OutsideQuantifiers (i :: π) ↔ arg.OutsideQuantifiers π := by
  constructor
  · intro h ρ hρ hne
    rw [← at?_apply_cons_of hi ρ]
    exact h (i :: ρ) (List.cons_prefix_cons.mpr ⟨rfl, hρ⟩) fun heq => hne (List.cons.inj heq).2
  · intro h ρ hρ hne
    cases ρ with
    | nil => simp [kind]
    | cons j ρ =>
      obtain ⟨rfl, hrest⟩ := List.cons_prefix_cons.mp hρ
      rw [at?_apply_cons_of hi ρ]
      exact h ρ hrest fun heq => hne (by rw [heq])

/-- Holds of the nodes that stand outside the quantifiers of an expression. -/
def OutsideNode (expr node : Expr) : Prop :=
  ∃ π, expr.OutsideQuantifiers π ∧ expr.at? π = some node

theorem OutsideNode.self (expr : Expr) : expr.OutsideNode expr :=
  ⟨[], outsideQuantifiers_nil expr, at?_nil expr⟩

/-- Where no path leads on without entering a quantifier, the root is the only node outside. -/
theorem outsideNode_iff_of_closed {expr node : Expr}
    (h : ∀ i π, expr.OutsideQuantifiers (i :: π) → expr.at? (i :: π) = none) :
    expr.OutsideNode node ↔ node = expr := by
  constructor
  · intro hnode
    obtain ⟨π, hπ, hat⟩ := hnode
    cases π with
    | nil => exact Option.some.inj (hat.symm.trans (at?_nil expr))
    | cons i π =>
      rw [h i π hπ] at hat
      cases hat
  · intro heq
    rw [heq]
    exact .self expr

@[simp] theorem outsideNode_ident_iff {span : Span} {id : Ident} {node : Expr} :
    (ident span id).OutsideNode node ↔ node = .ident span id :=
  outsideNode_iff_of_closed fun _ _ _ => rfl

@[simp] theorem outsideNode_literal_iff {span : Span} {value : Literal} {node : Expr} :
    (literal span value).OutsideNode node ↔ node = .literal span value :=
  outsideNode_iff_of_closed fun _ _ _ => rfl

@[simp] theorem outsideNode_apply_iff {span : Span} {symbol : Symbol} {args : List Expr}
    {node : Expr} : (apply span symbol args).OutsideNode node ↔
      node = .apply span symbol args ∨ ∃ arg ∈ args, arg.OutsideNode node := by
  constructor
  · intro h
    obtain ⟨π, hπ, hnode⟩ := h
    cases π with
    | nil => exact .inl (Option.some.inj hnode).symm
    | cons i π =>
      obtain ⟨arg, hi, hnode⟩ := atAll?_eq_some_iff.mp hnode
      exact .inr ⟨arg, List.mem_of_getElem? hi, π,
        (outsideQuantifiers_apply_cons_iff hi).mp hπ, hnode⟩
  · intro h
    cases h with
    | inl hself =>
      rw [hself]
      exact .self _
    | inr hinner =>
      obtain ⟨arg, harg, π, hπ, hnode⟩ := hinner
      obtain ⟨i, hi⟩ := List.mem_iff_getElem?.mp harg
      exact ⟨i :: π, (outsideQuantifiers_apply_cons_iff hi).mpr hπ,
        atAll?_eq_some_iff.mpr ⟨arg, hi, hnode⟩⟩

@[simp] theorem outsideNode_quantified_iff {span : Span} {quantifier : Quantifier}
    {binders : List Ident} {body node : Expr} :
    (quantified span quantifier binders body).OutsideNode node ↔
      node = .quantified span quantifier binders body :=
  outsideNode_iff_of_closed fun i π hπ =>
    absurd rfl (hπ [] List.nil_prefix (List.cons_ne_nil i π).symm)

/-! ## All paths, in order -/

theorem mem_pathsAll_iff_of {exprs : List Expr}
    (h : ∀ expr ∈ exprs, ∀ π, π ∈ expr.paths ↔ (expr.at? π).isSome = true) :
    ∀ i π, (i, π) ∈ pathsAll exprs ↔ (atAll? exprs (i, π)).isSome = true := by
  induction exprs with
  | nil => intro i π; simp [pathsAll]
  | cons expr rest ih =>
    intro i π
    have hrest := ih fun e he => h e (List.mem_cons_of_mem _ he)
    cases i with
    | zero => simp [pathsAll, h expr List.mem_cons_self]
    | succ i => simp [pathsAll, hrest]

/-- The paths of an expression are those that end at a node. -/
theorem mem_paths_iff (expr : Expr) : ∀ π, π ∈ expr.paths ↔ (expr.at? π).isSome = true := by
  induction expr using Expr.induction with
  | ident span id => intro π; cases π <;> simp [paths]
  | literal span value => intro π; cases π <;> simp [paths]
  | apply span symbol args argsIH =>
    intro π
    cases π with
    | nil => simp [paths]
    | cons i π => simp [paths, mem_pathsAll_iff_of argsIH]
  | quantified span quantifier binders body bodyIH =>
    intro π
    match π with
    | [] => simp [paths]
    | 0 :: π => simp [paths, bodyIH]
    | (i + 1) :: π => simp [paths]

theorem pathsAll_pairwise_of {exprs : List Expr}
    (h : ∀ expr ∈ exprs, expr.paths.Pairwise (· < ·)) :
    (pathsAll exprs).Pairwise fun p q => p.1 :: p.2 < q.1 :: q.2 := by
  induction exprs with
  | nil => exact List.Pairwise.nil
  | cons expr rest ih =>
    have hrest := ih fun e he => h e (List.mem_cons_of_mem _ he)
    rw [pathsAll, List.pairwise_append, List.pairwise_map, List.pairwise_map]
    refine ⟨?_, ?_, ?_⟩
    · exact (h expr List.mem_cons_self).imp fun hlt => by simpa using hlt
    · exact hrest.imp fun hlt => by simpa [List.cons_lt_cons_iff] using hlt
    · intro p hp q hq
      rcases List.mem_map.mp hp with ⟨π, -, rfl⟩
      rcases List.mem_map.mp hq with ⟨⟨i, π'⟩, -, rfl⟩
      simp [List.cons_lt_cons_iff]

/-- The paths of an expression come in their order as lists. -/
theorem paths_pairwise_lt (expr : Expr) : expr.paths.Pairwise (· < ·) := by
  induction expr using Expr.induction with
  | ident span id => exact List.pairwise_singleton _ _
  | literal span value => exact List.pairwise_singleton _ _
  | apply span symbol args argsIH =>
    rw [paths, List.pairwise_cons, List.pairwise_map]
    refine ⟨?_, pathsAll_pairwise_of argsIH⟩
    intro π hπ
    rcases List.mem_map.mp hπ with ⟨⟨i, π'⟩, -, rfl⟩
    exact List.nil_lt_cons i π'
  | quantified span quantifier binders body bodyIH =>
    rw [paths, List.pairwise_cons, List.pairwise_map]
    refine ⟨?_, ?_⟩
    · intro π hπ
      rcases List.mem_map.mp hπ with ⟨π', -, rfl⟩
      exact List.nil_lt_cons 0 π'
    · exact bodyIH.imp fun hlt => by simpa using hlt

/-- What is found in each of a row of expressions by looking at its paths is found by looking at the
paths of the row. -/
theorem flatMap_eq_filterMap_pathsAll_of {α : Type} {f : Expr → List α} {g : Expr → Path → Option α}
    {exprs : List Expr} (h : ∀ expr ∈ exprs, f expr = expr.paths.filterMap (g expr)) :
    exprs.flatMap f =
      (pathsAll exprs).filterMap fun (i, π) => exprs[i]?.bind fun expr => g expr π := by
  induction exprs with
  | nil => rfl
  | cons expr rest ih =>
    have hrest := ih fun e he => h e (List.mem_cons_of_mem _ he)
    rw [pathsAll, List.filterMap_append, List.filterMap_map, List.filterMap_map,
      List.flatMap_cons, h expr List.mem_cons_self, hrest]
    rfl

end Expr

end Graft
