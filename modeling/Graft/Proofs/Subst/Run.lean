import Graft.Proofs.Subst.Scope

/-!
# Runs of an instantiation

One stack is carried through every fragment of a run. Each part of a fragment settles with the stack
that it found, be it with an answer or with a fault, so no fragment can tell what came before it
(`instantiateAll_eq_map_scoped`).
-/

namespace Graft

/-! ## Settling with the stack as it was -/

/-- Holds when a computation gives the answer beside the given stack, and leaves that stack. -/
def Settles {α : Type} (hidden : List Handle) (computation : Instantiation α)
    (answer : Except Fault α) : Prop :=
  computation.run.run hidden = (answer, hidden)

namespace Settles

variable {α β : Type} {hidden : List Handle}

theorem pure (a : α) : Settles hidden (pure a) (.ok a) := rfl

theorem lift {computation : Hiding α} {a : α} (h : computation.run hidden = (a, hidden)) :
    Settles hidden (liftM computation) (.ok a) := by
  change (computation.run hidden >>= fun (a, hidden) => (Except.ok a, hidden)) = _
  rw [h]
  rfl

/-- What comes next starts from the stack that was there before, or is not reached. -/
theorem bind {computation : Instantiation α} {answer : Except Fault α}
    {next : α → Instantiation β} {nextAnswer : α → Except Fault β}
    (h : Settles hidden computation answer) (hnext : ∀ a, Settles hidden (next a) (nextAnswer a)) :
    Settles hidden (computation >>= next) (answer >>= nextAnswer) := by
  unfold Settles at h
  change (computation.run.run hidden >>= fun (answer, hidden) =>
    (ExceptT.bindCont next answer).run hidden) = _
  rw [h]
  cases answer with
  | error fault => rfl
  | ok a => exact hnext a

/-- A computation that is mapped afterwards has its answer mapped. -/
theorem map {computation : Instantiation α} {answer : Except Fault α} (f : α → β)
    (h : Settles hidden computation answer) :
    Settles hidden (do let a ← computation; return f a) (answer.map f) := by
  have hmap : answer.map f = answer >>= fun a => .ok (f a) := by
    cases answer <;> rfl
  rw [hmap]
  exact h.bind fun a => pure (f a)

end Settles

namespace Subst

variable (σ : Subst) (hidden : List Handle)

theorem callee_hide : (σ.hide hidden).callee = σ.callee := by
  funext name decl
  unfold callee
  rw [function?_hide]

/-! ## Expressions in a fragment -/

theorem exprM_settles (expr : Expr) :
    Settles hidden (liftM (σ.exprM expr)) (.ok ((σ.hide hidden).scopedExpr expr)) :=
  .lift (σ.run_exprM expr hidden)

theorem exprsM_settles (exprs : List Expr) :
    Settles hidden (liftM (σ.exprsM exprs)) (.ok ((σ.hide hidden).scopedExprs exprs)) :=
  .lift (run_exprsM_of (fun expr _ => σ.run_exprM expr) hidden)

/-! ## Targets -/

theorem variableM_settles (position : Position) (span : Span) (id : Ident) :
    Settles hidden (σ.variableM position span id)
      ((σ.hide hidden).scopedVariable position span id) := by
  -- the stack is read once, before anything is decided
  have hget : (get : Instantiation (List Handle)).run.run hidden =
    pure (Except.ok hidden, hidden) := rfl
  unfold Settles variableM scopedVariable
  rw [← visible?_eq_ident?_hide]
  simp only [ExceptT.run_bind, StateT.run_bind, hget, pure_bind]
  cases σ.visible? hidden id with
  | none => rfl
  | some expr => cases expr <;> rfl

theorem variablesM_settles (position : Position) (span : Span) (ids : List Ident) :
    Settles hidden (σ.variablesM position span ids)
      (ids.mapM ((σ.hide hidden).scopedVariable position span)) := by
  induction ids with
  | nil => exact .pure []
  | cons id rest ih =>
    rw [variablesM, List.mapM_cons]
    exact (σ.variableM_settles hidden position span id).bind fun id => ih.bind fun rest =>
      .pure (id :: rest)

theorem targetM_settles (target : Target) :
    Settles hidden (σ.targetM target) ((σ.hide hidden).scopedTarget target) := by
  induction target with
  | «variable» span id =>
    exact (σ.variableM_settles hidden .assigned span id).map (Target.variable span)
  | cell span base indices ih =>
    -- the indices are instantiated before the base, and only the base can fault
    exact (σ.exprsM_settles hidden indices).bind fun indices =>
      ih.map fun base => Target.cell span base indices

/-! ## Commands -/

/-- One pair of an assignment, the target before the right-hand side. -/
def scopedPair (σ : Subst) : Target × Expr → Except Fault (Target × Expr)
  | (target, expr) => (σ.scopedTarget target).map fun target => (target, σ.scopedExpr expr)

theorem pairsM_settles (pairs : List (Target × Expr)) :
    Settles hidden (σ.pairsM pairs) (pairs.mapM (σ.hide hidden).scopedPair) := by
  induction pairs with
  | nil => exact .pure []
  | cons pair rest ih =>
    obtain ⟨target, expr⟩ := pair
    have hsettles := (σ.targetM_settles hidden target).bind fun target =>
      (σ.exprM_settles hidden expr).bind fun expr => ih.bind fun rest =>
        .pure ((target, expr) :: rest)
    -- a fault of the target is the answer, before the right-hand side is looked at
    have hanswer : (((target, expr) :: rest).mapM (σ.hide hidden).scopedPair) =
        (σ.hide hidden).scopedTarget target >>= fun target => do
          let rest ← rest.mapM (σ.hide hidden).scopedPair
          return (target, (σ.hide hidden).scopedExpr expr) :: rest := by
      rw [List.mapM_cons, scopedPair]
      cases (σ.hide hidden).scopedTarget target <;> rfl
    rw [hanswer]
    exact hsettles

theorem actionM_settles (span : Span) (action : Action) :
    Settles hidden (σ.actionM span action) ((σ.hide hidden).scopedAction span action) := by
  cases action with
  | assert condition => exact (σ.exprM_settles hidden condition).map Action.assert
  | assume condition => exact (σ.exprM_settles hidden condition).map Action.assume
  | assign pairs => exact (σ.pairsM_settles hidden pairs).map Action.assign
  | call name decl inputs outputs =>
    rw [scopedAction, callee_hide]
    exact (σ.exprsM_settles hidden inputs).bind fun inputs =>
      (σ.variablesM_settles hidden .callOutput span outputs).map fun outputs =>
        Action.call (σ.callee name decl).1 (σ.callee name decl).2 inputs outputs
  | havoc ids => exact (σ.variablesM_settles hidden .havoced span ids).map Action.havoc

theorem commandM_settles (command : Command) :
    Settles hidden (σ.commandM command) ((σ.hide hidden).scopedCommand command) :=
  (σ.actionM_settles hidden command.span command.action).map (Command.mk command.span)

theorem commandsM_settles (commands : List Command) :
    Settles hidden (σ.commandsM commands) (commands.mapM (σ.hide hidden).scopedCommand) := by
  induction commands with
  | nil => exact .pure []
  | cons command rest ih =>
    rw [commandsM, List.mapM_cons]
    exact (σ.commandM_settles hidden command).bind fun command => ih.bind fun rest =>
      .pure (command :: rest)

/-! ## Fragments -/

/-- A fragment is instantiated by what is in scope, and leaves the stack as it was even if it
faults. -/
theorem fragmentM_settles (fragment : Fragment) :
    Settles hidden (σ.fragmentM fragment) ((σ.hide hidden).scopedFragment fragment) := by
  cases fragment with
  | expr expr => exact (σ.exprM_settles hidden expr).map Fragment.expr
  | target target => exact (σ.targetM_settles hidden target).map Fragment.target
  | command command => exact (σ.commandM_settles hidden command).map Fragment.command
  | commands commands => exact (σ.commandsM_settles hidden commands).map Fragment.commands

/-- A run gives each fragment its own answer and ends with the stack that it began with. -/
theorem run_fragmentsM (fragments : List Fragment) :
    (σ.fragmentsM fragments).run hidden =
      (fragments.map (σ.hide hidden).scopedFragment, hidden) := by
  induction fragments with
  | nil => rfl
  | cons fragment rest ih =>
    have hfirst : (σ.fragmentM fragment).run.run hidden = _ := σ.fragmentM_settles hidden fragment
    rw [fragmentsM, StateT.run_bind, hfirst]
    change (do
      let rest ← σ.fragmentsM rest
      return (σ.hide hidden).scopedFragment fragment :: rest : Hiding _).run hidden = _
    rw [StateT.run_bind, ih]
    rfl

theorem instantiate_eq_scopedFragment (fragment : Fragment) :
    σ.instantiate fragment = σ.scopedFragment fragment := by
  have hrun : (σ.fragmentM fragment).run.run [] = _ := σ.fragmentM_settles [] fragment
  unfold instantiate
  rw [hrun]
  rfl

/-- However many fragments are instantiated with one stack, and whether or not some of them fault,
each answer is the one that its fragment gets alone, which is the answer of scoped substitution. What
is in scope under binders is all of the substitution, apart from what their handles are bound to where
that is no identifier. -/
theorem instantiateAll_eq_map_scoped (fragments : List Fragment) :
    σ.instantiateAll fragments = fragments.map σ.instantiate ∧
      σ.instantiateAll fragments = fragments.map σ.scopedFragment ∧
      ((σ.fragmentsM fragments).run []).2 = [] ∧
      ∀ binders, (σ.under binders).function? = σ.function? ∧
        ∀ handle, (σ.under binders).value? handle =
          if some handle ∈ binders.map Ident.decl then (σ.value? handle).filter (·.ident?.isSome)
          else σ.value? handle := by
  have hrun : (σ.fragmentsM fragments).run [] = (fragments.map σ.scopedFragment, []) :=
    σ.run_fragmentsM [] fragments
  have hscoped : σ.instantiateAll fragments = fragments.map σ.scopedFragment := by
    unfold instantiateAll
    rw [hrun]
  have halone : σ.instantiate = σ.scopedFragment := funext σ.instantiate_eq_scopedFragment
  refine ⟨by rw [halone, hscoped], hscoped, by rw [hrun], ?_⟩
  intro binders
  obtain ⟨hidden, hunder⟩ := σ.exists_hide_eq_under binders
  exact ⟨by rw [hunder, function?_hide], value?_under binders σ⟩

/-- With `x` bound to `5`: a fault, a quantifier that hides `x` once for its two binders, and `x`
itself, which is visible again. -/
example :
    (empty.bind ⟨1⟩ (.literal .synthetic (.int 5))).instantiateAll
      [.command ⟨.synthetic, .havoc [⟨"x", some ⟨1⟩⟩]⟩,
        .expr (.quantified .synthetic .forall [⟨"x", some ⟨1⟩⟩, ⟨"x", some ⟨1⟩⟩]
          (.ident .synthetic ⟨"x", some ⟨1⟩⟩)),
        .expr (.ident .synthetic ⟨"x", some ⟨1⟩⟩)] =
      [.error ⟨.havoced, "x", .literal .synthetic (.int 5), .synthetic⟩,
        .ok (.expr (.quantified .synthetic .forall [⟨"x", some ⟨1⟩⟩, ⟨"x", some ⟨1⟩⟩]
          (.ident .synthetic ⟨"x", some ⟨1⟩⟩))),
        .ok (.expr (.literal .synthetic (.int 5)))] := rfl

end Subst

end Graft
