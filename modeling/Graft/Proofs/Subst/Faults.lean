import Graft.Proofs.Subst.Run
import Graft.Subst.Writes

/-!
# Faults of commands

Commands are instantiated from left to right, and only a written variable can fault. So the fault of a
list of commands is the one of the first place at which the substitution puts something that is no
identifier, and where there is no such place the commands are instantiated
(`instantiateCommands_faults_first`).
-/

namespace Graft

namespace Subst

/-- Holds of an answer that is the fault of the first of some places to have one, and that has the
given property if none of them has. -/
def Answers {α : Type} (σ : Subst) (writes : List Write) (P : α → Prop) (answer : Except Fault α) :
    Prop :=
  match writes.findSome? σ.fault? with
  | some fault => answer = .error fault
  | none => ∃ a, answer = .ok a ∧ P a

namespace Answers

variable {α β : Type} {σ : Subst} {writes later : List Write} {P : α → Prop} {Q : β → Prop}
  {answer : Except Fault α}

theorem ok {a : α} (h : P a) : σ.Answers [] P (.ok a) := ⟨a, rfl, h⟩

/-- What comes next has its own places, which come later. -/
theorem bind {next : α → Except Fault β} (h : σ.Answers writes P answer)
    (hnext : ∀ a, P a → σ.Answers later Q (next a)) :
    σ.Answers (writes ++ later) Q (answer >>= next) := by
  unfold Answers at h ⊢
  rw [List.findSome?_append]
  cases hfirst : writes.findSome? σ.fault? with
  | some fault =>
    -- a fault is the answer, whatever would come next
    rw [hfirst] at h
    rw [h, Option.some_or]
    rfl
  | none =>
    rw [hfirst] at h
    obtain ⟨a, hanswer, ha⟩ := h
    rw [hanswer, Option.none_or]
    exact hnext a ha

theorem map {f : α → β} (h : σ.Answers writes P answer) (hf : ∀ a, P a → Q (f a)) :
    σ.Answers writes Q (answer.map f) := by
  have hbind := h.bind fun a ha => ok (σ := σ) (hf a ha)
  rw [List.append_nil] at hbind
  change σ.Answers writes Q (f <$> answer)
  rw [map_eq_pure_bind]
  exact hbind

/-- Elements answer from left to right, up to the first fault. -/
theorem mapM {f : α → Except Fault β} {w : α → List Write} {R : α → β → Prop} {xs : List α}
    (h : ∀ x ∈ xs, σ.Answers (w x) (R x) (f x)) :
    σ.Answers (xs.flatMap w) (List.Forall₂ R xs) (xs.mapM f) := by
  induction xs with
  | nil => exact ok .nil
  | cons x rest ih =>
    have hrest := ih fun y hy => h y (List.mem_cons_of_mem _ hy)
    rw [List.flatMap_cons, List.mapM_cons]
    refine (h x List.mem_cons_self).bind ?_
    intro y hy
    rw [← map_eq_pure_bind]
    exact hrest.map fun ys hys => .cons hy hys

theorem eq_error_iff (h : σ.Answers writes P answer) {fault : Fault} :
    answer = .error fault ↔ writes.findSome? σ.fault? = some fault := by
  unfold Answers at h
  cases hfirst : writes.findSome? σ.fault? with
  | some first =>
    rw [hfirst] at h
    rw [h, Except.error.injEq, Option.some.injEq]
  | none =>
    rw [hfirst] at h
    obtain ⟨a, hanswer, -⟩ := h
    simp [hanswer]

theorem exists_eq_ok_iff (h : σ.Answers writes P answer) :
    (∃ a, answer = .ok a) ↔ writes.findSome? σ.fault? = none := by
  unfold Answers at h
  cases hfirst : writes.findSome? σ.fault? with
  | some fault =>
    rw [hfirst] at h
    simp [h]
  | none =>
    rw [hfirst] at h
    obtain ⟨a, hanswer, -⟩ := h
    simp [hanswer]

theorem of_eq_ok (h : σ.Answers writes P answer) {a : α} (hanswer : answer = .ok a) : P a := by
  unfold Answers at h
  cases hfirst : writes.findSome? σ.fault? with
  | some fault =>
    rw [hfirst, hanswer] at h
    cases h
  | none =>
    rw [hfirst, hanswer] at h
    obtain ⟨_, heq, ha⟩ := h
    cases heq
    exact ha

end Answers

/-! ## Written variables -/

variable (σ : Subst)

theorem answers_scopedVariable (position : Position) (span : Span) (id : Ident) :
    σ.Answers [⟨position, span, id⟩] (σ.Renames id) (σ.scopedVariable position span id) := by
  unfold Answers scopedVariable
  rw [List.findSome?_cons, List.findSome?_nil]
  unfold fault? Renames
  cases σ.ident? id with
  | none => exact ⟨id, rfl, .inl ⟨rfl, rfl⟩⟩
  | some bound =>
    cases bound with
    | ident span' id' => exact ⟨id', rfl, .inr ⟨span', rfl⟩⟩
    | _ => rfl

theorem answers_scopedVariables (position : Position) (span : Span) (ids : List Ident) :
    σ.Answers (ids.map (Write.mk position span)) (List.Forall₂ σ.Renames ids)
      (ids.mapM (σ.scopedVariable position span)) := by
  rw [List.map_eq_flatMap]
  exact .mapM fun id _ => σ.answers_scopedVariable position span id

/-- However many indices stand around it, the innermost variable is the one that can fault. -/
theorem answers_scopedTarget (target : Target) :
    σ.Answers [target.write] (target.Becomes σ) (σ.scopedTarget target) := by
  induction target with
  | «variable» span id =>
    exact (σ.answers_scopedVariable .assigned span id).map fun id' => .variable span
  | cell span base indices ih =>
    refine ih.map ?_
    intro base' hbase
    rw [scopedExprs_eq_map, ← funext σ.instantiateExpr_eq_scopedExpr]
    exact .cell span indices hbase

theorem answers_scopedPair (pair : Target × Expr) :
    σ.Answers [pair.1.write]
      (fun pair' => pair.1.Becomes σ pair'.1 ∧ pair'.2 = σ.instantiateExpr pair.2)
      (σ.scopedPair pair) := by
  refine (σ.answers_scopedTarget pair.1).map ?_
  intro target htarget
  exact ⟨htarget, (σ.instantiateExpr_eq_scopedExpr pair.2).symm⟩

/-! ## Commands -/

theorem answers_scopedCommand (command : Command) :
    σ.Answers command.writes (command.Becomes σ) (σ.scopedCommand command) := by
  suffices h : σ.Answers command.writes (command.action.Becomes σ)
      (σ.scopedAction command.span command.action) from h.map fun action haction => ⟨rfl, haction⟩
  obtain ⟨span, action⟩ := command
  cases action with
  | assert condition =>
    refine .ok ?_
    rw [← instantiateExpr_eq_scopedExpr]
    exact .assert condition
  | assume condition =>
    refine .ok ?_
    rw [← instantiateExpr_eq_scopedExpr]
    exact .assume condition
  | assign pairs =>
    have hpairs := Answers.mapM fun pair (_ : pair ∈ pairs) => σ.answers_scopedPair pair
    rw [← List.map_eq_flatMap] at hpairs
    exact hpairs.map fun pairs' => .assign
  | call callee decl inputs outputs =>
    refine (σ.answers_scopedVariables .callOutput span outputs).map ?_
    intro outputs' houtputs
    rw [scopedExprs_eq_map, ← funext σ.instantiateExpr_eq_scopedExpr]
    exact .call callee decl inputs houtputs
  | havoc ids => exact (σ.answers_scopedVariables .havoced span ids).map fun ids' => .havoc

theorem answers_scopedCommands (commands : List Command) :
    σ.Answers (commands.flatMap Command.writes) (List.Forall₂ (Command.Becomes σ) commands)
      (commands.mapM σ.scopedCommand) :=
  .mapM fun command _ => σ.answers_scopedCommand command

theorem answers_instantiateCommands (commands : List Command) :
    σ.Answers (commands.flatMap Command.writes) (List.Forall₂ (Command.Becomes σ) commands)
      (σ.instantiateCommands commands) := by
  have hrun : (σ.commandsM commands).run.run [] = _ := σ.commandsM_settles [] commands
  unfold instantiateCommands
  rw [hrun]
  exact σ.answers_scopedCommands commands

theorem answers_instantiate (fragment : Fragment) :
    σ.Answers fragment.writes (fragment.Becomes σ) (σ.instantiate fragment) := by
  rw [instantiate_eq_scopedFragment]
  cases fragment with
  | expr whole =>
    refine .ok ?_
    rw [← instantiateExpr_eq_scopedExpr]
    exact .expr whole
  | target whole => exact (σ.answers_scopedTarget whole).map fun whole' => .target
  | command whole => exact (σ.answers_scopedCommand whole).map fun whole' => .command
  | commands all => exact (σ.answers_scopedCommands all).map fun all' => .commands

/-- A fault is reported in words: the position, the variable's name in the template, and the written
form of what the variable is bound to. -/
theorem message_of_instantiate_eq_error {fragment : Fragment} {fault : Fault}
    (h : σ.instantiate fragment = .error fault) : ∃ write ∈ fragment.writes, ∃ bound,
      σ.ident? write.id = some bound ∧ fault.foundText = bound.text ∧
        fault.message = write.position.noun ++ " `" ++ write.id.name
          ++ "` must remain an identifier after substitution, got `" ++ bound.text ++ "`" := by
  have hfirst := (σ.answers_instantiate fragment).eq_error_iff.mp h
  obtain ⟨write, hwrite, hfault⟩ := List.exists_of_findSome?_eq_some hfirst
  obtain ⟨bound, hbound, -, rfl⟩ := fault?_eq_some_iff.mp hfault
  exact ⟨write, hwrite, bound, hbound, rfl, rfl⟩

/-- `m[x] := x`, then `call r := p(x)`, then `havoc h`. -/
def updateAndCall : List Command :=
  [⟨⟨0, 9⟩, .assign [(.cell ⟨0, 4⟩ (.variable ⟨0, 1⟩ ⟨"m", some ⟨1⟩⟩)
      [.ident ⟨2, 1⟩ ⟨"x", some ⟨2⟩⟩], .ident ⟨8, 1⟩ ⟨"x", some ⟨2⟩⟩)]⟩,
    ⟨⟨10, 14⟩, .call "p" none [.ident ⟨22, 1⟩ ⟨"x", some ⟨2⟩⟩] [⟨"r", some ⟨3⟩⟩]⟩,
    ⟨⟨25, 7⟩, .havoc [⟨"h", some ⟨4⟩⟩]⟩]

/-- Renames `m` to `n` and binds `x` to `5`. -/
def renamedMap : Subst :=
  .ofLists [(⟨1⟩, .ident ⟨40, 1⟩ ⟨"n", some ⟨7⟩⟩), (⟨2⟩, .literal ⟨50, 1⟩ (.int 5))] []

/-- With numbers for `m`, `r` and `h`, the variable under the index is the first to fault. -/
example : (ofLists [(⟨1⟩, .literal ⟨40, 1⟩ (.int 1)), (⟨3⟩, .literal ⟨50, 1⟩ (.int 3)),
      (⟨4⟩, .literal ⟨60, 1⟩ (.int 4))] []).instantiateCommands updateAndCall =
    .error ⟨.assigned, "m", .literal ⟨40, 1⟩ (.int 1), ⟨0, 1⟩⟩ := rfl

end Subst

end Graft
