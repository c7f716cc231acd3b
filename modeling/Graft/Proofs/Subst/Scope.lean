import Graft.Expr.Parts
import Graft.Subst.Instantiate
import Graft.Subst.Scoped

/-!
# Scope of a substitution

Hiding a handle on the stack is the same as forgetting what it is bound to. So instantiation with a
stack is the scoped substitution of what is not hidden, and leaves the stack as it was
(`run_exprM`).
-/

namespace Graft

namespace Subst

/-- The substitution without the bindings of the hidden handles. -/
def hide (σ : Subst) (hidden : List Handle) : Subst := hidden.foldr (fun handle τ => τ.unbind handle) σ

theorem value?_hide (σ : Subst) (hidden : List Handle) (handle : Handle) :
    (σ.hide hidden).value? handle = if handle ∈ hidden then none else σ.value? handle := by
  induction hidden with
  | nil => rfl
  | cons first rest ih =>
    rw [hide, List.foldr_cons, value?_unbind, ← hide, ih]
    by_cases heq : first = handle
    · rw [if_pos heq, if_pos (by rw [heq]; exact List.mem_cons_self)]
    · simp only [heq, if_false, List.mem_cons, Ne.symm heq, false_or]

@[simp] theorem function?_hide (σ : Subst) (hidden : List Handle) :
    (σ.hide hidden).function? = σ.function? := by
  induction hidden with
  | nil => rfl
  | cons first rest ih => exact ih

theorem rename_hide (σ : Subst) (hidden : List Handle) : (σ.hide hidden).rename = σ.rename := by
  funext symbol
  rw [rename, rename, function?_hide]

theorem hide_append (σ : Subst) (inner outer : List Handle) :
    σ.hide (inner ++ outer) = (σ.hide outer).hide inner := by
  rw [hide, List.foldr_append]
  rfl

/-- What is visible beside a stack is what is bound in scope. -/
theorem visible?_eq_ident?_hide (σ : Subst) (hidden : List Handle) (id : Ident) :
    σ.visible? hidden id = (σ.hide hidden).ident? id := by
  unfold visible? ident?
  cases id.decl with
  | none => rfl
  | some handle => exact (value?_hide σ hidden handle).symm

/-! ## Binders -/

/-- The handle that a binder hides, if it is bound to something that is no identifier. -/
def hiddenBy (σ : Subst) (binder : Ident) : List Handle :=
  match σ.ident? binder with
  | some (.ident _ _) => []
  | some _ => binder.decl.toList
  | none => []

theorem hideBinder_eq_hide (σ : Subst) (binder : Ident) :
    σ.hideBinder binder = σ.hide (σ.hiddenBy binder) := by
  unfold hideBinder hiddenBy ident?
  cases binder.decl with
  | none => rfl
  | some handle =>
    simp only [Option.bind_some]
    cases σ.value? handle with
    | none => rfl
    | some expr => cases expr <;> rfl

/-- A binder is instantiated by what is in scope, and may hide its handle. -/
theorem run_binderM (σ : Subst) (hidden : List Handle) (binder : Ident) :
    (σ.binderM binder).run hidden =
      ((σ.hide hidden).scopedBinder binder, (σ.hide hidden).hiddenBy binder ++ hidden) := by
  unfold scopedBinder hiddenBy
  rw [← visible?_eq_ident?_hide]
  show (match σ.visible? hidden binder with
    | some (.ident _ renamed) => (pure renamed : Hiding Ident)
    | some _ => do modify (binder.decl.toList ++ ·); return binder
    | none => pure binder).run hidden = _
  cases σ.visible? hidden binder with
  | none => rfl
  | some expr => cases expr <;> rfl

/-- Hiding a binder either changes nothing or forgets something that is no identifier. -/
theorem hideBinder_cases (σ : Subst) (binder : Ident) :
    σ.hideBinder binder = σ ∨ ∃ handle expr, binder.decl = some handle ∧
      σ.value? handle = some expr ∧ expr.ident? = none ∧
      σ.hideBinder binder = σ.unbind handle := by
  unfold hideBinder
  cases binder.decl with
  | none => exact .inl rfl
  | some handle =>
    cases hvalue : σ.value? handle with
    | none => exact .inl (by simp [hvalue])
    | some expr =>
      cases expr with
      | ident span id => exact .inl (by simp [hvalue])
      | _ => exact .inr ⟨handle, _, rfl, hvalue, rfl, by simp [hvalue]⟩

theorem value?_hideBinder (σ : Subst) (binder : Ident) (handle : Handle) :
    (σ.hideBinder binder).value? handle =
      if binder.decl = some handle then (σ.value? handle).filter (·.ident?.isSome)
      else σ.value? handle := by
  unfold hideBinder
  cases binder.decl with
  | none => rfl
  | some handle' =>
    simp only [Option.some.injEq]
    by_cases heq : handle' = handle
    · rw [if_pos heq, ← heq]
      cases hvalue : σ.value? handle' with
      | none => exact hvalue
      | some expr =>
        cases expr with
        | ident span id => exact hvalue
        | _ => exact (value?_unbind σ handle' handle').trans (if_pos rfl)
    · -- forgetting another handle does not matter
      rw [if_neg heq]
      cases σ.value? handle' with
      | none => rfl
      | some expr =>
        cases expr with
        | ident span id => rfl
        | _ => exact (value?_unbind σ handle' handle).trans (if_neg heq)

/-- Under binders their handles are bound to identifiers at most. Any other handle is bound as it is
outside. -/
theorem value?_under (binders : List Ident) : ∀ (σ : Subst) (handle : Handle),
    (σ.under binders).value? handle =
      if some handle ∈ binders.map Ident.decl then (σ.value? handle).filter (·.ident?.isSome)
      else σ.value? handle := by
  induction binders with
  | nil => intro σ handle; rfl
  | cons binder rest ih =>
    intro σ handle
    change ((σ.hideBinder binder).under rest).value? handle = _
    simp only [ih, value?_hideBinder, List.map_cons, List.mem_cons, eq_comm (a := some handle)]
    by_cases hfirst : binder.decl = some handle
    · -- a second binder with the handle finds nothing left to forget
      simp [hfirst]
    · simp [hfirst]

theorem functions_hideBinder (σ : Subst) (binder : Ident) :
    (σ.hideBinder binder).functions = σ.functions := by
  cases σ.hideBinder_cases binder with
  | inl hsame => rw [hsame]
  | inr hhidden =>
    obtain ⟨handle, _, -, -, -, hunbind⟩ := hhidden
    rw [hunbind]
    rfl

theorem functions_under (binders : List Ident) :
    ∀ σ : Subst, (σ.under binders).functions = σ.functions := by
  induction binders with
  | nil => intro σ; rfl
  | cons binder rest ih => intro σ; exact (ih _).trans (functions_hideBinder σ binder)

@[simp] theorem function?_under (σ : Subst) (binders : List Ident) :
    (σ.under binders).function? = σ.function? := by
  funext name
  rw [function?, functions_under, function?]

theorem scopedBinder_of_value? {σ : Subst} {binder : Ident} {handle : Handle} {expr : Expr}
    (hdecl : binder.decl = some handle) (hvalue : σ.value? handle = some expr) :
    σ.scopedBinder binder = expr.ident?.getD binder := by
  unfold scopedBinder ident?
  rw [hdecl, Option.bind_some, hvalue]
  cases expr <;> rfl

theorem scopedBinder_of_none {σ : Subst} {binder : Ident} (h : σ.ident? binder = none) :
    σ.scopedBinder binder = binder := by
  unfold scopedBinder
  rw [h]

/-- Hiding a binder does not matter to the binders beside it: what is hidden is no identifier, so
that a binder with the hidden handle stays as it is either way. -/
theorem scopedBinder_hideBinder (σ : Subst) (binder : Ident) :
    (σ.hideBinder binder).scopedBinder = σ.scopedBinder := by
  rcases σ.hideBinder_cases binder with hsame | ⟨handle, expr, -, hvalue, hident, hunbind⟩
  · rw [hsame]
  · rw [hunbind]
    funext other
    by_cases hdecl : other.decl = some handle
    · have hnone : (σ.unbind handle).ident? other = none := by
        rw [ident?, hdecl, Option.bind_some, value?_unbind, if_pos rfl]
      rw [scopedBinder_of_none hnone, scopedBinder_of_value? hdecl hvalue, hident]
      rfl
    · -- another handle is looked up as before
      have hsame : (σ.unbind handle).ident? other = σ.ident? other := by
        unfold ident?
        cases hother : other.decl with
        | none => rfl
        | some handle' =>
          have hne : handle ≠ handle' := fun heq => hdecl (by rw [hother, heq])
          rw [Option.bind_some, Option.bind_some, value?_unbind, if_neg hne]
      rw [scopedBinder, scopedBinder, hsame]

/-- The binders of an outer quantifier do not change how binders are renamed. -/
theorem scopedBinder_under (binders : List Ident) :
    ∀ σ : Subst, (σ.under binders).scopedBinder = σ.scopedBinder := by
  induction binders with
  | nil => intro σ; rfl
  | cons binder rest ih => intro σ; exact (ih _).trans (scopedBinder_hideBinder σ binder)

theorem under_eq_self {σ : Subst} {binders : List Ident}
    (h : ∀ binder ∈ binders, ∀ expr, σ.ident? binder = some expr → expr.ident?.isSome = true) :
    σ.under binders = σ := by
  induction binders with
  | nil => rfl
  | cons binder rest ih =>
    have hfirst : σ.hideBinder binder = σ := by
      rcases σ.hideBinder_cases binder with hsame | ⟨handle, expr, hdecl, hvalue, hident, -⟩
      · exact hsame
      · have hsome := h binder List.mem_cons_self expr (by rw [ident?, hdecl]; exact hvalue)
        rw [hident] at hsome
        cases hsome
    rw [under, List.foldl_cons, hfirst]
    exact ih fun b hb => h b (List.mem_cons_of_mem _ hb)

theorem run_bindersM (σ : Subst) (binders : List Ident) : ∀ hidden : List Handle,
    ∃ pushed, (σ.bindersM binders).run hidden =
        (binders.map (σ.hide hidden).scopedBinder, pushed ++ hidden) ∧
      σ.hide (pushed ++ hidden) = (σ.hide hidden).under binders := by
  induction binders with
  | nil => exact fun hidden => ⟨[], rfl, rfl⟩
  | cons binder rest ih =>
    intro hidden
    let pushed := (σ.hide hidden).hiddenBy binder
    rcases ih (pushed ++ hidden) with ⟨pushed', hrun, hscope⟩
    have hfirst : σ.hide (pushed ++ hidden) = (σ.hide hidden).hideBinder binder := by
      rw [hide_append, hideBinder_eq_hide]
    -- later binders are pushed in front of earlier ones
    refine ⟨pushed' ++ pushed, ?_, ?_⟩
    · rw [bindersM, StateT.run_bind, run_binderM]
      show (do
        let rest ← σ.bindersM rest
        return (σ.hide hidden).scopedBinder binder :: rest : Hiding _).run (pushed ++ hidden) = _
      rw [StateT.run_bind, hrun, hfirst, scopedBinder_hideBinder, List.append_assoc]
      rfl
    · rw [List.append_assoc, hscope, hfirst]
      rfl

/-- What is in scope under binders is the substitution with some handles hidden. -/
theorem exists_hide_eq_under (σ : Subst) (binders : List Ident) :
    ∃ hidden, σ.under binders = σ.hide hidden := by
  rcases run_bindersM σ binders [] with ⟨pushed, -, hscope⟩
  exact ⟨pushed ++ [], hscope.symm⟩

/-- An instance has an instance of each node of the template at its path, by a substitution of which
everything holds that the quantifiers on the way there keep. -/
theorem exists_at?_scopedExpr_of {P : Subst → Prop}
    (hunder : ∀ τ binders, P τ → P (τ.under binders)) {expr node : Expr} {π : Path}
    (hnode : expr.at? π = some node) :
    ∀ σ : Subst, P σ → ∃ τ, P τ ∧ (σ.scopedExpr expr).at? π = some (τ.scopedExpr node) := by
  induction π generalizing expr with
  | nil =>
    intro σ hσ
    rw [Expr.at?_nil, Option.some.injEq] at hnode
    exact ⟨σ, hσ, by rw [Expr.at?_nil, hnode]⟩
  | cons i π ih =>
    intro σ hσ
    cases expr with
    | ident span id => cases hnode
    | literal span value => cases hnode
    | apply span symbol args =>
      rcases Expr.atAll?_eq_some_iff.mp hnode with ⟨arg, harg, hnode⟩
      rw [scopedExpr, Expr.at?_apply_cons, scopedExprs_eq_map, Expr.atAll?, List.getElem?_map,
        harg]
      exact ih hnode σ hσ
    | quantified span quantifier binders body =>
      cases i with
      | zero => exact ih hnode (σ.under binders) (hunder σ binders hσ)
      | succ i => cases hnode

/-- On the way to a node the quantifiers hide some handles. -/
theorem exists_at?_scopedExpr {expr node : Expr} {π : Path} (hnode : expr.at? π = some node)
    (σ : Subst) : ∃ hidden,
      (σ.scopedExpr expr).at? π = some ((σ.hide hidden).scopedExpr node) := by
  have hunder : ∀ τ binders, (∃ hidden, τ = σ.hide hidden) →
      ∃ hidden, τ.under binders = σ.hide hidden := by
    intro τ binders hτ
    rcases hτ with ⟨outer, rfl⟩
    rcases (σ.hide outer).exists_hide_eq_under binders with ⟨inner, hinner⟩
    exact ⟨inner ++ outer, by rw [hide_append, hinner]⟩
  rcases exists_at?_scopedExpr_of hunder hnode σ ⟨[], rfl⟩ with ⟨_, ⟨hidden, rfl⟩, hat⟩
  exact ⟨hidden, hat⟩

/-! ## Where nothing is hidden -/

/-- Holds when every binder of an expression is unbound or bound to an identifier, so that each
quantifier has the whole substitution in scope. -/
def HidesNothingIn (σ : Subst) (expr : Expr) : Prop :=
  ∀ binder ∈ expr.binders, ∀ bound, σ.ident? binder = some bound → bound.ident?.isSome = true

section HidesNothingIn

variable {σ : Subst} {span : Span}

theorem HidesNothingIn.arg {symbol : Symbol} {args : List Expr} {arg : Expr}
    (h : σ.HidesNothingIn (.apply span symbol args)) (harg : arg ∈ args) :
    σ.HidesNothingIn arg :=
  fun binder hbinder => h binder (Expr.binders_subset_of_mem harg hbinder)

variable {quantifier : Quantifier} {binders : List Ident} {inner : Expr}

theorem HidesNothingIn.body (h : σ.HidesNothingIn (.quantified span quantifier binders inner)) :
    σ.HidesNothingIn inner :=
  fun binder hbinder => h binder (List.mem_append_right _ hbinder)

theorem HidesNothingIn.under_eq_self
    (h : σ.HidesNothingIn (.quantified span quantifier binders inner)) : σ.under binders = σ :=
  Subst.under_eq_self fun binder hbinder => h binder (List.mem_append_left _ hbinder)

/-- An instance has the instances of the template's nodes at their paths. -/
theorem HidesNothingIn.at?_scopedExpr {expr node : Expr} {π : Path} (h : σ.HidesNothingIn expr)
    (hnode : expr.at? π = some node) :
    (σ.scopedExpr expr).at? π = some (σ.scopedExpr node) := by
  induction π generalizing expr with
  | nil =>
    rw [Expr.at?_nil, Option.some.injEq] at hnode
    rw [Expr.at?_nil, hnode]
  | cons i π ih =>
    cases expr with
    | ident span id => cases hnode
    | literal span value => cases hnode
    | apply span symbol args =>
      rcases Expr.atAll?_eq_some_iff.mp hnode with ⟨arg, harg, hnode⟩
      rw [scopedExpr, Expr.at?_apply_cons, scopedExprs_eq_map, Expr.atAll?, List.getElem?_map,
        harg]
      exact ih (h.arg (List.mem_of_getElem? harg)) hnode
    | quantified span quantifier binders body =>
      cases i with
      | zero =>
        rw [scopedExpr, Expr.at?_quantified_zero_cons, h.under_eq_self]
        exact ih h.body hnode
      | succ i => cases hnode

end HidesNothingIn

/-! ## Expressions -/

theorem run_exprsM_of {σ : Subst} {exprs : List Expr}
    (h : ∀ expr ∈ exprs, ∀ hidden,
      (σ.exprM expr).run hidden = ((σ.hide hidden).scopedExpr expr, hidden)) :
    ∀ hidden, (σ.exprsM exprs).run hidden = ((σ.hide hidden).scopedExprs exprs, hidden) := by
  induction exprs with
  | nil => intro hidden; rfl
  | cons expr rest ih =>
    intro hidden
    have hrest := ih (fun e he => h e (List.mem_cons_of_mem _ he)) hidden
    rw [exprsM, StateT.run_bind, h expr List.mem_cons_self]
    show (do
      let rest ← σ.exprsM rest
      return (σ.hide hidden).scopedExpr expr :: rest : Hiding _).run hidden = _
    rw [StateT.run_bind, hrest]
    rfl

/-- An expression is instantiated by what is in scope, and the stack is left as it was. -/
theorem run_exprM (σ : Subst) (expr : Expr) : ∀ hidden,
    (σ.exprM expr).run hidden = ((σ.hide hidden).scopedExpr expr, hidden) := by
  induction expr using Expr.induction with
  | ident span id =>
    intro hidden
    rw [scopedExpr, ← visible?_eq_ident?_hide]
    rfl
  | literal span value => intro hidden; rfl
  | apply span symbol args argsIH =>
    intro hidden
    rw [exprM, StateT.run_bind, run_exprsM_of argsIH, scopedExpr, rename_hide]
    rfl
  | quantified span quantifier binders body bodyIH =>
    intro hidden
    rcases run_bindersM σ binders hidden with ⟨pushed, hrun, hscope⟩
    show (do
      let binders ← σ.bindersM binders
      let body ← σ.exprM body
      modify fun hidden' => hidden'.drop (hidden'.length - hidden.length)
      return Expr.quantified span quantifier binders body : Hiding _).run hidden = _
    rw [StateT.run_bind, hrun]
    show (do
      let body ← σ.exprM body
      modify fun hidden' => hidden'.drop (hidden'.length - hidden.length)
      return Expr.quantified span quantifier _ body : Hiding _).run (pushed ++ hidden) = _
    rw [StateT.run_bind, bodyIH, hscope]
    -- what the quantifier pushed is cut off again
    have hdrop : (pushed ++ hidden).drop ((pushed ++ hidden).length - hidden.length) = hidden := by
      rw [List.length_append, Nat.add_sub_cancel, List.drop_left]
    show (Expr.quantified _ _ _ _, (pushed ++ hidden).drop _) = _
    rw [hdrop, scopedExpr]

/-- Instantiation with a stack that is empty at first is scoped substitution. -/
theorem instantiateExpr_eq_scopedExpr (σ : Subst) (expr : Expr) :
    σ.instantiateExpr expr = σ.scopedExpr expr := by
  unfold instantiateExpr
  rw [run_exprM]
  rfl

theorem instantiate_expr (σ : Subst) (expr : Expr) :
    σ.instantiate (.expr expr) = .ok (.expr (σ.scopedExpr expr)) := by
  rw [← instantiateExpr_eq_scopedExpr]
  rfl

end Subst

end Graft
