import Graft.Expr.Path
import Graft.Proofs.Traversal.Collectors
import Graft.Proofs.Traversal.Identifiers
import Graft.Traversal.Trace

/-!
# What a walk finds, visit by visit

A walk that nothing stops visits every node once and knows around each the nodes whose parts are just
being walked. What any collector finds is what it takes from these visits, apart from those that fall
into the walk of a node it does not descend into (`Visitor.Collects.fragment_eq_takes`). So stopping
at some kinds of node removes exactly the events inside them (`Fragment.stopping_prunes`).
-/

namespace Graft

/-- A visit as it is seen from further outside. -/
def Visit.within (around : List Node) (visit : Visit) : Visit :=
  ⟨visit.node, visit.around ++ around⟩

/-- Holds of a walk that notes the given visits, wherever it starts. -/
def Tour.Notes (walk : Tour → Tour) (visits : List Visit) : Prop :=
  ∀ tour, walk tour = ⟨tour.around, tour.visits ++ visits.map (Visit.within tour.around)⟩

namespace Tour.Notes

variable {walk walk' : Tour → Tour} {visits visits' : List Visit}

theorem nothing : Notes (fun tour => tour) [] := by
  intro tour
  rw [List.map_nil, List.append_nil]

theorem andThen (h : Notes walk visits) (h' : Notes walk' visits') :
    Notes (fun tour => walk' (walk tour)) (visits ++ visits') := by
  intro tour
  show walk' (walk tour) = _
  rw [h, h', List.map_append, List.append_assoc]

/-- The parts of a node are visited inside it, and on leaving it is forgotten. -/
theorem stopBy (h : Notes walk visits) (node : Node) :
    Notes (Visitor.surveyor.stopBy node walk) (⟨node, []⟩ :: visits.map (Visit.within [node])) := by
  intro tour
  have hinside : visits.map (Visit.within (node :: tour.around)) =
      (visits.map (Visit.within [node])).map (Visit.within tour.around) := by
    rw [List.map_map]
    refine List.map_congr_left fun visit _ => ?_
    show (⟨visit.node, visit.around ++ node :: tour.around⟩ : Visit) =
      ⟨visit.node, (visit.around ++ [node]) ++ tour.around⟩
    rw [List.append_assoc]
    rfl
  show (⟨tour.around, (walk ⟨node :: tour.around, tour.visits ++ [⟨node, tour.around⟩]⟩).visits⟩ :
    Tour) = _
  rw [h, List.append_assoc, hinside]
  rfl

end Tour.Notes

/-! ## Collectors -/

section Spared

variable {α : Type} {visitor : Visitor (List α)} {own : Node → List α}

/-- Tells whether a visitor gets to a visit: it descends into every node around. -/
def Visitor.reaches (visitor : Visitor (List α)) (visit : Visit) : Bool :=
  visit.around.all visitor.descends

/-- What a collector takes from those of the given visits that it gets to. -/
def Visitor.takes (visitor : Visitor (List α)) (own : Node → List α) (visits : List Visit) : List α :=
  (visits.filter visitor.reaches).flatMap fun visit => own visit.node

theorem Visitor.takes_append (visits visits' : List Visit) :
    visitor.takes own (visits ++ visits') = visitor.takes own visits ++ visitor.takes own visits' := by
  rw [takes, List.filter_append, List.flatMap_append]
  rfl

/-- Inside a node a collector gets to everything that it would get to anyway, or to nothing. -/
theorem Visitor.takes_within (node : Node) (visits : List Visit) :
    visitor.takes own (visits.map (Visit.within [node])) =
      if visitor.descends node then visitor.takes own visits else [] := by
  have hreaches : ∀ visit : Visit, visitor.reaches (visit.within [node]) =
      (visitor.reaches visit && visitor.descends node) := by
    intro visit
    rw [reaches, reaches, Visit.within, List.all_append, List.all_cons, List.all_nil, Bool.and_true]
  rw [takes, takes, List.filter_map, List.flatMap_map]
  by_cases hdescends : visitor.descends node = true
  · rw [if_pos hdescends]
    simp only [Function.comp_def, hreaches, hdescends, Bool.and_true]
    rfl
  · rw [if_neg hdescends]
    simp only [Function.comp_def, hreaches, hdescends, Bool.and_false, List.filter_false]
    rfl

/-- The walks of a collector go along with the walks that note all visits. -/
theorem Visitor.Collects.lifts_takes (h : visitor.Collects own) :
    visitor.Lifts surveyor fun walk survey =>
      ∃ visits, Tour.Notes survey visits ∧ Appends walk (visitor.takes own visits) where
  nothing := ⟨[], .nothing, .nothing⟩
  andThen := by
    rintro walk next survey survey' ⟨visits, hnotes, happends⟩ ⟨visits', hnotes', happends'⟩
    refine ⟨visits ++ visits', hnotes.andThen hnotes', ?_⟩
    rw [takes_append]
    exact happends.andThen happends'
  stopBy := by
    rintro parts survey ⟨visits, hnotes, happends⟩ node
    refine ⟨_, hnotes.stopBy node, ?_⟩
    have htakes : visitor.takes own (⟨node, []⟩ :: visits.map (Visit.within [node])) =
        own node ++ visitor.takes own (visits.map (Visit.within [node])) := rfl
    rw [htakes, takes_within]
    exact h.stopBy happends node

/-- What a collector finds in a fragment is what it takes from the visits that it gets to. -/
theorem Visitor.Collects.fragment_eq_takes (h : visitor.Collects own) (fragment : Fragment) :
    visitor.fragment fragment [] = visitor.takes own fragment.visits := by
  obtain ⟨visits, hnotes, happends⟩ := h.lifts_takes.fragment fragment
  have hvisits : fragment.visits = visits := by
    rw [Fragment.visits, hnotes]
    show visits.map (fun visit => ⟨visit.node, visit.around ++ []⟩) = visits
    simp
  rw [hvisits, happends.alone]

/-- A collector that gets everywhere and takes the nodes of one kind finds these in the order in
which they are visited. -/
theorem Visitor.Collects.fragment_of_hook {hook : Hook} {node : α → Node}
    (h : visitor.Collects own) (hdescends : ∀ node, visitor.descends node = true)
    (hown : ∀ visited : Node, (own visited).map node = if visited.hook = hook then [visited] else [])
    (fragment : Fragment) :
    (fragment.visits.filter fun visit => visit.node.hook = hook).map Visit.node =
      (visitor.fragment fragment []).map node := by
  have hreaches : ∀ visit, visitor.reaches visit = true :=
    fun visit => List.all_eq_true.mpr fun node _ => hdescends node
  rw [h.fragment_eq_takes, takes, List.filter_eq_self.mpr fun visit _ => hreaches visit]
  generalize fragment.visits = visits
  induction visits with
  | nil => rfl
  | cons visit rest ih =>
    rw [List.flatMap_cons, List.map_append, hown, ← ih, List.filter_cons]
    by_cases hhook : visit.node.hook = hook
    · simp [hhook]
    · simp [hhook]

end Spared

/-! ## Literals -/

/-- The value of the literal at the end of a path, if one stands there. -/
def Expr.literalAt? (expr : Expr) (π : Path) : Option Literal :=
  match expr.at? π with
  | some (.literal _ value) => some value
  | _ => none

/-- Of all nodes only literals are collected. -/
theorem Visitor.literalCollector_collects :
    literalCollector.CollectsFromExprs fun | .literal value => [value] | _ => [] where
  enter node := by
    cases node with
    | literal value => exact fun found => rfl
    | _ => exact .nothing
  leave _ _ _ := rfl
  ident _ := rfl
  target _ := ⟨rfl, rfl⟩
  command _ := ⟨rfl, rfl⟩

theorem Visitor.literalCollector_expr (expr : Expr) :
    literalCollector.expr expr [] = expr.paths.filterMap expr.literalAt? := by
  induction expr using Expr.induction with
  | ident span id => rfl
  | literal span value => rfl
  | apply span symbol args argsIH =>
    have hat : ∀ i π, (Expr.apply span symbol args).literalAt? (i :: π) =
        args[i]?.bind fun arg => arg.literalAt? π := by
      intro i π
      rw [Expr.literalAt?, Expr.at?_apply_cons, Expr.atAll?]
      cases args[i]? <;> rfl
    have hargs := (literalCollector_collects.exprs args).alone
    rw [Expr.flatMap_eq_filterMap_pathsAll_of argsIH] at hargs
    rw [Expr.paths, List.filterMap_cons, List.filterMap_map]
    simp only [Function.comp_def, hat]
    exact hargs
  | quantified span quantifier binders body bodyIH =>
    rw [Expr.paths, List.filterMap_cons, List.filterMap_map]
    exact bodyIH

theorem Fragment.literals_eq_flatMap (fragment : Fragment) :
    fragment.literals = fragment.exprs.flatMap fun expr => expr.paths.filterMap expr.literalAt? := by
  rw [literals, Visitor.literalCollector_collects.fragment]
  exact List.flatMap_congr fun expr _ => Visitor.literalCollector_expr expr

/-! ## Traces -/

theorem Visitor.tracer_collects (stopped : List Hook) :
    (tracer stopped).Collects fun node => [node.event] where
  enter _ _ := rfl
  leave _ _ _ := rfl

theorem Fragment.trace_eq_filter (fragment : Fragment) (stopped : List Hook) :
    fragment.trace stopped =
      (fragment.visits.filter fun visit => !visit.isInside stopped).map fun visit =>
        visit.node.event := by
  have hreaches : (Visitor.tracer stopped).reaches = fun visit => !visit.isInside stopped := by
    funext visit
    rw [Visit.isInside, List.not_any_eq_all_not]
    simp only [← decide_not]
    rfl
  rw [trace, (Visitor.tracer_collects stopped).fragment_eq_takes, Visitor.takes, hreaches]
  exact List.flatMap_pure_eq_map _ _

theorem Fragment.trace_nil (fragment : Fragment) :
    fragment.trace [] = fragment.visits.map fun visit => visit.node.event := by
  have hnone : ∀ visit ∈ fragment.visits, (!visit.isInside []) = true := by
    intro visit _
    simp [Visit.isInside]
  rw [trace_eq_filter, List.filter_eq_self.mpr hnone]

/-- What is stopped by more kinds of node is a part of what is stopped by fewer. -/
theorem Fragment.trace_sublist (fragment : Fragment) {stopped stopped' : List Hook}
    (h : stopped ⊆ stopped') : (fragment.trace stopped').Sublist (fragment.trace stopped) := by
  rw [trace_eq_filter, trace_eq_filter]
  refine List.Sublist.map _ (List.monotone_filter_right _ fun visit houtside => ?_)
  rw [Visit.isInside, Bool.not_eq_true', List.any_eq_false] at houtside ⊢
  intro node hnode hstopped
  rw [decide_eq_true_eq] at hstopped
  exact houtside node hnode (decide_eq_true (h hstopped))

/-- Stopping at some kinds of node removes from the full trace exactly the events that fall into the
walk of a node of such a kind, and stopping at more kinds removes more. The identifiers and literals
that a full walk visits are the occurrences in the fragment, in order: the identifiers those that are
collected, and the literals those that stand at the paths of its expressions. -/
theorem Fragment.stopping_prunes (fragment : Fragment) :
    (∀ stopped, fragment.trace stopped =
      (fragment.visits.filter fun visit => !visit.isInside stopped).map fun visit =>
        visit.node.event) ∧
    fragment.trace [] = (fragment.visits.map fun visit => visit.node.event) ∧
    (∀ stopped stopped', stopped ⊆ stopped' →
      (fragment.trace stopped').Sublist (fragment.trace stopped)) ∧
    (fragment.visits.filter fun visit => visit.node.hook = .ident).map Visit.node =
      fragment.identifiers.map Node.ident ∧
    (fragment.visits.filter fun visit => visit.node.hook = .literal).map Visit.node =
      fragment.literals.map Node.literal ∧
    fragment.literals =
      fragment.exprs.flatMap fun expr => expr.paths.filterMap expr.literalAt? := by
  refine ⟨fragment.trace_eq_filter, fragment.trace_nil, fun _ _ => fragment.trace_sublist, ?_, ?_,
    fragment.literals_eq_flatMap⟩
  · refine Visitor.identCollector_collects.fragment_of_hook (fun _ => rfl) ?_ fragment
    intro visited
    cases visited <;> rfl
  · refine Visitor.literalCollector_collects.fragment_of_hook (fun _ => rfl) ?_ fragment
    intro visited
    cases visited <;> rfl

/-- `M[i + 1] := forall x :: p(x)`. -/
def boundedUpdate : Command :=
  let x : Ident := ⟨"x", some ⟨3⟩⟩
  let index : Expr :=
    .apply .synthetic (.binary .add)
      [.ident .synthetic ⟨"i", some ⟨2⟩⟩, .literal .synthetic (.int 1)]
  let condition : Expr :=
    .quantified .synthetic .forall [x] (.apply .synthetic (.call "p" none) [.ident .synthetic x])
  ⟨.synthetic, .assign [(.cell .synthetic (.variable .synthetic ⟨"M", some ⟨1⟩⟩) [index], condition)]⟩

/-- Stopping at targets drops what is in them, and stopping at quantifiers as well also drops the
body. -/
theorem Fragment.stopping_prunes_update :
    ((Fragment.command boundedUpdate).trace [.target, .quantified]).Sublist
      ((Fragment.command boundedUpdate).trace [.target]) :=
  (Fragment.command boundedUpdate).stopping_prunes.2.2.1 _ _ (by decide)

example : (Fragment.command boundedUpdate).trace [.target, .quantified] =
    [⟨.command, .word "assign"⟩, ⟨.target, .word "M"⟩, ⟨.expr, .word "quantifier"⟩,
      ⟨.quantified, .count 1⟩] := rfl

end Graft
