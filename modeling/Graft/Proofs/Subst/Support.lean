import Graft.Proofs.Subst.Run
import Graft.Proofs.Traversal.Identifiers
import Graft.Subst.Restrict

/-!
# What an instance depends on

An expression is instantiated alike by substitutions that agree on its identifiers, binders and
symbols (`scopedExpr_congr`), and a fragment by those that instantiate its expressions alike and agree
on the variables that it writes and the procedures that it calls (`scopedFragment_congr`). So nothing
beyond what a fragment mentions matters, and where nothing of it is bound the fragment stays as it is
(`instantiate_restrict`).
-/

namespace Graft

namespace Subst

/-! ## Expressions -/

/-- Holds of substitutions that agree on everything that an expression mentions. -/
structure AgreesOn (σ τ : Subst) (expr : Expr) : Prop where
  ident : ∀ id ∈ expr.identifiers, σ.ident? id = τ.ident? id
  binder : ∀ binder ∈ expr.binders, σ.ident? binder = τ.ident? binder
  symbol : ∀ symbol ∈ expr.symbols, σ.function? symbol.name = τ.function? symbol.name

section Expr

variable {σ τ : Subst} {span : Span}

theorem AgreesOn.arg {symbol : Symbol} {args : List Expr} {arg : Expr}
    (h : σ.AgreesOn τ (.apply span symbol args)) (harg : arg ∈ args) : σ.AgreesOn τ arg where
  ident id hid := h.ident id (by
    rw [Expr.identifiers_apply]
    exact List.mem_flatMap.mpr ⟨arg, harg, hid⟩)
  binder binder hbinder := h.binder binder (Expr.binders_subset_of_mem harg hbinder)
  symbol f hf := h.symbol f (by
    rw [Expr.symbols_apply]
    exact List.mem_cons_of_mem _ (List.mem_flatMap.mpr ⟨arg, harg, hf⟩))

theorem rename_congr {symbol : Symbol} (h : σ.function? symbol.name = τ.function? symbol.name) :
    σ.rename symbol = τ.rename symbol := by
  rw [rename, rename, h]

theorem scopedBinder_congr {binder : Ident} (h : σ.ident? binder = τ.ident? binder) :
    σ.scopedBinder binder = τ.scopedBinder binder := by
  rw [scopedBinder, scopedBinder, h]

/-- Under binders each look-up is decided by what it finds outside. -/
theorem ident?_under_congr {id : Ident} (h : σ.ident? id = τ.ident? id) (binders : List Ident) :
    (σ.under binders).ident? id = (τ.under binders).ident? id := by
  unfold ident? at h ⊢
  cases hdecl : id.decl with
  | none => rfl
  | some handle =>
    rw [hdecl] at h
    have hvalue : σ.value? handle = τ.value? handle := h
    rw [Option.bind_some, Option.bind_some, value?_under, value?_under, hvalue]

theorem AgreesOn.body {quantifier : Quantifier} {binders : List Ident} {body : Expr}
    (h : σ.AgreesOn τ (.quantified span quantifier binders body)) :
    (σ.under binders).AgreesOn (τ.under binders) body where
  ident id hid := ident?_under_congr (h.ident id hid) binders
  binder binder hbinder :=
    ident?_under_congr (h.binder binder (List.mem_append_right _ hbinder)) binders
  symbol f hf := by
    rw [function?_under, function?_under]
    exact h.symbol f hf

theorem scopedExpr_congr {template : Expr} : ∀ {σ τ : Subst}, σ.AgreesOn τ template →
    σ.scopedExpr template = τ.scopedExpr template := by
  induction template using Expr.induction with
  | ident span id =>
    intro σ τ h
    rw [scopedExpr, scopedExpr, h.ident id List.mem_cons_self]
  | literal span value => intro σ τ _; rfl
  | apply span symbol args argsIH =>
    intro σ τ h
    have hsymbol : σ.rename symbol = τ.rename symbol := by
      refine rename_congr (h.symbol symbol ?_)
      rw [Expr.symbols_apply]
      exact List.mem_cons_self
    have hargs : args.map σ.scopedExpr = args.map τ.scopedExpr :=
      List.map_congr_left fun arg harg => argsIH arg harg (h.arg harg)
    rw [scopedExpr, scopedExpr, scopedExprs_eq_map, scopedExprs_eq_map, hsymbol, hargs]
  | quantified span quantifier binders body bodyIH =>
    -- under the binders less may be bound, which is why both substitutions are general
    intro σ τ h
    have hbinders : binders.map σ.scopedBinder = binders.map τ.scopedBinder :=
      List.map_congr_left fun binder hbinder =>
        scopedBinder_congr (h.binder binder (List.mem_append_left _ hbinder))
    rw [scopedExpr, scopedExpr, hbinders, bodyIH h.body]

end Expr

/-! ## Fragments -/

section Fragment

variable {σ τ : Subst}

theorem mapM_congr_left {α β : Type} {f g : α → Except Fault β} {xs : List α}
    (h : ∀ x ∈ xs, f x = g x) : xs.mapM f = xs.mapM g := by
  induction xs with
  | nil => rfl
  | cons x rest ih =>
    rw [List.mapM_cons, List.mapM_cons, h x List.mem_cons_self,
      ih fun y hy => h y (List.mem_cons_of_mem _ hy)]

theorem scopedVariable_congr {id : Ident} (h : σ.ident? id = τ.ident? id) (position : Position)
    (span : Span) : σ.scopedVariable position span id = τ.scopedVariable position span id := by
  rw [scopedVariable, scopedVariable, h]

theorem scopedVariables_congr {ids : List Ident} {position : Position} {span : Span}
    (h : ∀ write ∈ ids.map (Write.mk position span), σ.ident? write.id = τ.ident? write.id) :
    ids.mapM (σ.scopedVariable position span) = ids.mapM (τ.scopedVariable position span) :=
  mapM_congr_left fun id hid =>
    scopedVariable_congr (h _ (List.mem_map.mpr ⟨id, hid, rfl⟩)) position span

theorem scopedExprs_congr {exprs : List Expr}
    (h : ∀ expr ∈ exprs, σ.scopedExpr expr = τ.scopedExpr expr) :
    σ.scopedExprs exprs = τ.scopedExprs exprs := by
  rw [scopedExprs_eq_map, scopedExprs_eq_map, List.map_congr_left h]

theorem scopedTarget_congr {target : Target}
    (hexprs : ∀ expr ∈ target.indices, σ.scopedExpr expr = τ.scopedExpr expr)
    (hwrite : σ.ident? target.write.id = τ.ident? target.write.id) :
    σ.scopedTarget target = τ.scopedTarget target := by
  induction target with
  | «variable» span id =>
    have hid : σ.ident? id = τ.ident? id := hwrite
    rw [scopedTarget, scopedTarget, scopedVariable_congr hid]
  | cell span base indices ih =>
    -- the levels below write the same variable
    have hbase := ih (fun expr hexpr => hexprs expr (List.mem_append_left _ hexpr)) hwrite
    have hindices := scopedExprs_congr fun expr hexpr => hexprs expr (List.mem_append_right _ hexpr)
    rw [scopedTarget, scopedTarget, hbase, hindices]

theorem scopedPair_congr {pair : Target × Expr}
    (hexprs : ∀ expr ∈ pair.1.indices ++ [pair.2], σ.scopedExpr expr = τ.scopedExpr expr)
    (hwrite : σ.ident? pair.1.write.id = τ.ident? pair.1.write.id) :
    σ.scopedPair pair = τ.scopedPair pair := by
  have htarget := scopedTarget_congr
    (fun expr hexpr => hexprs expr (List.mem_append_left _ hexpr)) hwrite
  have hright := hexprs pair.2 (List.mem_append_right _ List.mem_cons_self)
  rw [scopedPair, scopedPair, htarget, hright]

theorem scopedCommand_congr {command : Command}
    (hexprs : ∀ expr ∈ command.exprs, σ.scopedExpr expr = τ.scopedExpr expr)
    (hwrites : ∀ write ∈ command.writes, σ.ident? write.id = τ.ident? write.id)
    (hcallees : ∀ callee ∈ command.callees, σ.function? callee = τ.function? callee) :
    σ.scopedCommand command = τ.scopedCommand command := by
  obtain ⟨span, action⟩ := command
  suffices h : σ.scopedAction span action = τ.scopedAction span action by
    rw [scopedCommand, scopedCommand, h]
  cases action with
  | assert condition => rw [scopedAction, scopedAction, hexprs condition List.mem_cons_self]
  | assume condition => rw [scopedAction, scopedAction, hexprs condition List.mem_cons_self]
  | assign pairs =>
    have hpairs : pairs.mapM σ.scopedPair = pairs.mapM τ.scopedPair :=
      mapM_congr_left fun pair hpair => scopedPair_congr
        (fun expr hexpr => hexprs expr (List.mem_flatMap.mpr ⟨pair, hpair, hexpr⟩))
        (hwrites pair.1.write (List.mem_map.mpr ⟨pair, hpair, rfl⟩))
    exact congrArg (Except.map Action.assign) hpairs
  | call callee decl inputs outputs =>
    have hcallee : σ.callee callee decl = τ.callee callee decl := by
      rw [Subst.callee, Subst.callee, hcallees callee List.mem_cons_self]
    have hinputs : σ.scopedExprs inputs = τ.scopedExprs inputs := scopedExprs_congr hexprs
    rw [scopedAction, scopedAction, hcallee, hinputs, scopedVariables_congr hwrites]
  | havoc ids => rw [scopedAction, scopedAction, scopedVariables_congr hwrites]

/-- A fragment is instantiated alike if its parts are. -/
theorem scopedFragment_congr {fragment : Fragment}
    (hexprs : ∀ expr ∈ fragment.exprs, σ.scopedExpr expr = τ.scopedExpr expr)
    (hwrites : ∀ write ∈ fragment.writes, σ.ident? write.id = τ.ident? write.id)
    (hcallees : ∀ callee ∈ fragment.callees, σ.function? callee = τ.function? callee) :
    σ.scopedFragment fragment = τ.scopedFragment fragment := by
  cases fragment with
  | expr whole => rw [scopedFragment, scopedFragment, hexprs whole List.mem_cons_self]
  | target whole =>
    have hwrite := hwrites whole.write List.mem_cons_self
    rw [scopedFragment, scopedFragment, scopedTarget_congr hexprs hwrite]
  | command whole =>
    rw [scopedFragment, scopedFragment, scopedCommand_congr hexprs hwrites hcallees]
  | commands all =>
    have hall : all.mapM σ.scopedCommand = all.mapM τ.scopedCommand := by
      refine mapM_congr_left ?_
      intro command hcommand
      refine scopedCommand_congr ?_ ?_ ?_
      · intro expr hexpr
        exact hexprs expr (List.mem_flatMap.mpr ⟨command, hcommand, hexpr⟩)
      · intro write hwrite
        exact hwrites write (List.mem_flatMap.mpr ⟨command, hcommand, hwrite⟩)
      · intro callee hcallee
        exact hcallees callee (List.mem_flatMap.mpr ⟨command, hcommand, hcallee⟩)
    rw [scopedFragment, scopedFragment, hall]

end Fragment

/-! ## Nothing bound -/

theorem ident?_empty (id : Ident) : empty.ident? id = none := by
  unfold ident?
  cases id.decl with
  | none => rfl
  | some handle => exact value?_empty handle

theorem scopedExpr_empty (template : Expr) : empty.scopedExpr template = template := by
  induction template using Expr.induction with
  | ident span id => rw [scopedExpr, ident?_empty, Option.getD_none]
  | literal span value => rfl
  | apply span symbol args argsIH =>
    rw [scopedExpr, scopedExprs_eq_map, List.map_congr_left argsIH, List.map_id', rename,
      function?_empty, Option.getD_none]
  | quantified span quantifier binders body bodyIH =>
    have hunder : empty.under binders = empty :=
      under_eq_self fun binder _ bound hbound => by rw [ident?_empty] at hbound; cases hbound
    have hbinders : binders.map empty.scopedBinder = binders := by
      rw [List.map_congr_left fun binder _ => scopedBinder_of_none (ident?_empty binder),
        List.map_id']
    rw [scopedExpr, hunder, hbinders, bodyIH]

theorem mapM_eq_ok_self {α : Type} {f : α → Except Fault α} (h : ∀ x, f x = .ok x) (xs : List α) :
    xs.mapM f = .ok xs := by
  rw [funext h]
  exact (List.mapM_pure).trans (congrArg Except.ok (List.map_id' xs))

theorem scopedVariable_empty (position : Position) (span : Span) (id : Ident) :
    empty.scopedVariable position span id = .ok id := by
  rw [scopedVariable, ident?_empty]

theorem scopedTarget_empty (target : Target) : empty.scopedTarget target = .ok target := by
  induction target with
  | «variable» span id => rw [scopedTarget, scopedVariable_empty]; rfl
  | cell span base indices ih =>
    rw [scopedTarget, ih, scopedExprs_eq_map, funext scopedExpr_empty, List.map_id']
    rfl

theorem scopedCommand_empty (command : Command) : empty.scopedCommand command = .ok command := by
  obtain ⟨span, action⟩ := command
  suffices h : empty.scopedAction span action = .ok action by
    rw [scopedCommand, h]
    rfl
  cases action with
  | assert condition => rw [scopedAction, scopedExpr_empty]
  | assume condition => rw [scopedAction, scopedExpr_empty]
  | assign pairs =>
    have hpair : ∀ pair, empty.scopedPair pair = .ok pair := by
      intro pair
      rw [scopedPair, scopedTarget_empty, scopedExpr_empty]
      rfl
    exact congrArg (Except.map Action.assign) (mapM_eq_ok_self hpair pairs)
  | call callee decl inputs outputs =>
    rw [scopedAction, Subst.callee, function?_empty, mapM_eq_ok_self (scopedVariable_empty _ _),
      scopedExprs_eq_map, funext scopedExpr_empty, List.map_id']
    rfl
  | havoc ids =>
    rw [scopedAction, mapM_eq_ok_self (scopedVariable_empty _ _)]
    rfl

theorem scopedFragment_empty (fragment : Fragment) : empty.scopedFragment fragment = .ok fragment := by
  cases fragment with
  | expr whole => rw [scopedFragment, scopedExpr_empty]
  | target whole => rw [scopedFragment, scopedTarget_empty]; rfl
  | command whole => rw [scopedFragment, scopedCommand_empty]; rfl
  | commands all => rw [scopedFragment, mapM_eq_ok_self scopedCommand_empty]; rfl

/-! ## What is mentioned -/

section Mentioned

variable (σ : Subst) {fragment : Fragment}

theorem ident?_restrict_of_occurs {id : Ident} (hid : id ∈ fragment.identifiers ++ fragment.binders) :
    (σ.restrict fragment.handles fragment.names).ident? id = σ.ident? id :=
  ident?_restrict_of_mem fun _ hdecl => List.mem_filterMap.mpr ⟨id, hid, hdecl⟩

theorem restrict_agreesOn {expr : Expr} (hexpr : expr ∈ fragment.exprs) :
    (σ.restrict fragment.handles fragment.names).AgreesOn σ expr where
  ident id hid := σ.ident?_restrict_of_occurs
    (List.mem_append_left _ (Fragment.mem_identifiers_iff.mpr (.inl ⟨expr, hexpr, hid⟩)))
  binder binder hbinder := σ.ident?_restrict_of_occurs
    (List.mem_append_right _ (List.mem_flatMap.mpr ⟨expr, hexpr, hbinder⟩))
  symbol symbol hsymbol := by
    have hmem : symbol ∈ fragment.symbols := List.mem_flatMap.mpr ⟨expr, hexpr, hsymbol⟩
    exact function?_restrict_of_mem (List.mem_append_left _ (List.mem_map.mpr ⟨symbol, hmem, rfl⟩))

theorem scopedFragment_restrict (fragment : Fragment) :
    (σ.restrict fragment.handles fragment.names).scopedFragment fragment =
      σ.scopedFragment fragment := by
  refine scopedFragment_congr ?_ ?_ ?_
  · intro expr hexpr
    exact scopedExpr_congr (σ.restrict_agreesOn hexpr)
  · intro write hwrite
    refine σ.ident?_restrict_of_occurs (List.mem_append_left _ ?_)
    exact Fragment.mem_identifiers_iff.mpr (.inr ⟨write, hwrite, rfl⟩)
  · intro callee hcallee
    exact function?_restrict_of_mem (List.mem_append_right _ hcallee)

end Mentioned

/-- An instance, or a fault, is the same without the bindings that the fragment does not mention: those
for no handle of its identifiers, written variables and binders, and for no name of a function that it
applies or a procedure that it calls. A fragment of which nothing is bound stays exactly as it is. -/
theorem instantiate_restrict (σ : Subst) (fragment : Fragment) :
    (σ.restrict fragment.handles fragment.names).instantiate fragment = σ.instantiate fragment ∧
      ((σ.restrict fragment.handles fragment.names).isEmpty = true →
        σ.instantiate fragment = .ok fragment) := by
  have hsame : (σ.restrict fragment.handles fragment.names).instantiate fragment =
      σ.instantiate fragment := by
    rw [instantiate_eq_scopedFragment, instantiate_eq_scopedFragment, scopedFragment_restrict]
  refine ⟨hsame, ?_⟩
  intro hempty
  -- the restriction is then the empty substitution, which changes nothing
  rw [← hsame, isEmpty_iff.mp hempty, instantiate_eq_scopedFragment, scopedFragment_empty]

/-- `assume forall x :: p(x, y)`, then `m[y] := 1`, then `call r := q(y)`. -/
def assumeAndCall : Fragment :=
  .commands
    [⟨⟨0, 24⟩, .assume (.quantified ⟨7, 17⟩ .forall [⟨"x", some ⟨1⟩⟩]
        (.apply ⟨19, 7⟩ (.call "p" none)
          [.ident ⟨21, 1⟩ ⟨"x", some ⟨1⟩⟩, .ident ⟨24, 1⟩ ⟨"y", some ⟨2⟩⟩]))⟩,
      ⟨⟨25, 9⟩, .assign [(.cell ⟨25, 4⟩ (.variable ⟨25, 1⟩ ⟨"m", some ⟨3⟩⟩)
        [.ident ⟨27, 1⟩ ⟨"y", some ⟨2⟩⟩], .literal ⟨33, 1⟩ (.int 1))]⟩,
      ⟨⟨36, 14⟩, .call "q" none [.ident ⟨48, 1⟩ ⟨"y", some ⟨2⟩⟩] [⟨"r", some ⟨4⟩⟩]⟩]

/-- What is bound for another variable and another function leaves the commands as they are. -/
theorem instantiate_restrict_unmentioned :
    let σ : Subst := .ofLists [(⟨9⟩, .literal .synthetic (.int 5))] [("f", .mapStore)]
    (σ.restrict assumeAndCall.handles assumeAndCall.names).isEmpty = true ∧
      σ.instantiate assumeAndCall = .ok assumeAndCall := by
  intro σ
  have hempty : (σ.restrict assumeAndCall.handles assumeAndCall.names).isEmpty = true := by
    decide +kernel
  exact ⟨hempty, (instantiate_restrict σ assumeAndCall).2 hempty⟩

end Subst

end Graft
