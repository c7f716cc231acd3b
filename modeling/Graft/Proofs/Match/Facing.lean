import Graft.Match.Alignment
import Graft.Match.Facing

/-!
# Alignment along paths

An alignment runs to its end exactly when every pattern node admits the subject node that it faces
(`mismatch?_align_eq_none_iff`). It has then made the pairings of all paths of the pattern, one path
after the other in pre-order (`pairings_align_of`).
-/

namespace Graft

namespace Trail

theorem mismatch?_andThen_eq_none_iff {trail next : Trail} :
    (trail.andThen next).mismatch? = none ↔
      trail.mismatch? = none ∧ next.mismatch? = none := by
  unfold andThen
  cases h : trail.mismatch? <;> simp [h]

theorem pairings_andThen_of {trail : Trail} (h : trail.mismatch? = none) (next : Trail) :
    (trail.andThen next).pairings = trail.pairings ++ next.pairings := by
  unfold andThen
  rw [h]

theorem mismatch?_binders (span : Span) (pattern : List Ident) : ∀ subject : List Ident,
    (binders span pattern subject).mismatch? = none := by
  induction pattern with
  | nil => intro subject; rfl
  | cons binder rest ih =>
    intro subject
    cases subject with
    | nil => rfl
    | cons binder' rest' =>
      unfold binders
      cases binder.decl with
      | none => exact ih rest'
      | some handle => exact mismatch?_andThen_eq_none_iff.mpr ⟨rfl, ih rest'⟩

/-- A quantifier captures once for each of its resolved binders. -/
theorem pairings_binders (span : Span) (pattern : List Ident) : ∀ subject : List Ident,
    (binders span pattern subject).pairings =
      (pattern.zip subject).filterMap fun (binder, binder') =>
        binder.decl.map fun handle => .capture handle binder.name (.ident span binder') := by
  induction pattern with
  | nil => intro subject; rfl
  | cons binder rest ih =>
    intro subject
    cases subject with
    | nil => rfl
    | cons binder' rest' =>
      simp only [binders, List.zip_cons_cons, List.filterMap_cons]
      cases binder.decl with
      | none => exact ih rest'
      | some handle => exact congrArg (_ :: ·) (ih rest')

theorem mem_pairings_binders_iff {span : Span} {pattern subject : List Ident} {pairing : Pairing} :
    pairing ∈ (binders span pattern subject).pairings ↔
      ∃ (i : Nat) (binder binder' : Ident) (handle : Handle), pattern[i]? = some binder ∧
        subject[i]? = some binder' ∧ binder.decl = some handle ∧
        pairing = .capture handle binder.name (.ident span binder') := by
  rw [pairings_binders, List.mem_filterMap]
  refine ⟨?_, ?_⟩
  · rintro ⟨⟨binder, binder'⟩, hmem, hpairing⟩
    rcases Option.map_eq_some_iff.mp hpairing with ⟨handle, hdecl, rfl⟩
    rcases List.mem_iff_getElem?.mp hmem with ⟨i, hi⟩
    rcases List.getElem?_zip_eq_some.mp hi with ⟨hbinder, hbinder'⟩
    exact ⟨i, binder, binder', handle, hbinder, hbinder', hdecl, rfl⟩
  · rintro ⟨i, binder, binder', handle, hbinder, hbinder', hdecl, rfl⟩
    have hzip : (pattern.zip subject)[i]? = some (binder, binder') :=
      List.getElem?_zip_eq_some.mpr ⟨hbinder, hbinder'⟩
    exact ⟨(binder, binder'), List.mem_iff_getElem?.mpr ⟨i, hzip⟩,
      Option.map_eq_some_iff.mpr ⟨handle, hdecl, rfl⟩⟩

end Trail

namespace Expr

/-! ## The end of an alignment -/

theorem mismatch?_alignAll_eq_none_iff (patterns : List Expr) : ∀ subjects : List Expr,
    (alignAll patterns subjects).mismatch? = none ↔
      ∀ (i : Nat) (pattern subject : Expr), patterns[i]? = some pattern →
        subjects[i]? = some subject → (align pattern subject).mismatch? = none := by
  induction patterns with
  | nil => intro subjects; simp [alignAll, Trail.note]
  | cons pattern patterns ih =>
    intro subjects
    cases subjects with
    | nil => simp [alignAll, Trail.note]
    | cons subject subjects =>
      rw [alignAll, Trail.mismatch?_andThen_eq_none_iff, ih subjects]
      refine ⟨?_, ?_⟩
      · rintro ⟨hfirst, hrest⟩ i p s hp hs
        cases i with
        | zero =>
          cases hp
          cases hs
          exact hfirst
        | succ i => exact hrest i p s hp hs
      · intro hall
        exact ⟨hall 0 pattern subject rfl rfl, fun i p s hp hs => hall (i + 1) p s hp hs⟩

/-- Where one of two lists of one length has an element, so has the other. -/
theorem exists_getElem?_of_length_eq {α β : Type} {as : List α} {bs : List β}
    (hlength : as.length = bs.length) {i : Nat} {b : β} (hb : bs[i]? = some b) :
    ∃ a, as[i]? = some a := by
  have hi : i < as.length := by
    rw [hlength]
    exact (List.getElem?_eq_some_iff.mp hb).1
  exact ⟨as[i], List.getElem?_eq_getElem hi⟩

theorem AlignedWith.admits {pattern subject : Expr} (h : pattern.AlignedWith subject) :
    pattern.Admits subject := by
  rcases h [] pattern (at?_nil pattern) with ⟨node, hnode, hadmits⟩
  rw [at?_nil, Option.some.injEq] at hnode
  rw [hnode]
  exact hadmits

theorem AlignedWith.admits_at {pattern subject : Expr} (h : pattern.AlignedWith subject) {π : Path}
    {node node' : Expr} (hnode : pattern.at? π = some node)
    (hnode' : subject.at? π = some node') : node.Admits node' := by
  rcases h π node hnode with ⟨found, hfound, hadmits⟩
  rw [hnode', Option.some.injEq] at hfound
  rw [hfound]
  exact hadmits

theorem alignedWith_apply_iff {span span' : Span} {symbol symbol' : Symbol}
    {args args' : List Expr} :
    (apply span symbol args).AlignedWith (apply span' symbol' args') ↔
      (apply span symbol args).Admits (apply span' symbol' args') ∧
        ∀ (i : Nat) (arg arg' : Expr), args[i]? = some arg → args'[i]? = some arg' →
          arg.AlignedWith arg' := by
  refine ⟨?_, ?_⟩
  · intro h
    refine ⟨h.admits, ?_⟩
    intro i arg arg' harg harg' π node hnode
    have hfacing := h (i :: π) node (atAll?_eq_some_iff.mpr ⟨arg, harg, hnode⟩)
    rwa [at?_apply_cons, atAll?, harg'] at hfacing
  · rintro ⟨hadmits, hargs⟩ π node hnode
    cases π with
    | nil =>
      rw [at?_nil, Option.some.injEq] at hnode
      rw [← hnode]
      exact ⟨_, at?_nil _, hadmits⟩
    | cons i π =>
      -- with equal arity there is a subject argument in the same place
      rcases atAll?_eq_some_iff.mp hnode with ⟨arg, harg, hnode⟩
      rcases exists_getElem?_of_length_eq hadmits.1.symm harg with ⟨arg', harg'⟩
      rcases hargs i arg arg' harg harg' π node hnode with ⟨node', hnode', hadmits'⟩
      exact ⟨node', atAll?_eq_some_iff.mpr ⟨arg', harg', hnode'⟩, hadmits'⟩

theorem alignedWith_quantified_iff {span span' : Span} {quantifier quantifier' : Quantifier}
    {binders binders' : List Ident} {body body' : Expr} :
    (quantified span quantifier binders body).AlignedWith
        (quantified span' quantifier' binders' body') ↔
      (quantified span quantifier binders body).Admits
        (quantified span' quantifier' binders' body') ∧ body.AlignedWith body' := by
  refine ⟨?_, ?_⟩
  · intro h
    exact ⟨h.admits, fun π node hnode => h (0 :: π) node hnode⟩
  · rintro ⟨hadmits, hbody⟩ π node hnode
    match π with
    | [] =>
      rw [at?_nil, Option.some.injEq] at hnode
      rw [← hnode]
      exact ⟨_, at?_nil _, hadmits⟩
    | 0 :: π => exact hbody π node hnode
    | (i + 1) :: π =>
      rw [at?_quantified_succ_cons] at hnode
      cases hnode

/-- A node without parts is aligned with whatever it admits. -/
theorem alignedWith_iff_of_leaf {pattern : Expr} (h : ∀ i π, pattern.at? (i :: π) = none)
    (subject : Expr) : pattern.AlignedWith subject ↔ pattern.Admits subject := by
  refine ⟨AlignedWith.admits, ?_⟩
  intro hadmits π node hnode
  cases π with
  | nil =>
    rw [at?_nil, Option.some.injEq] at hnode
    rw [← hnode]
    exact ⟨subject, at?_nil subject, hadmits⟩
  | cons i π =>
    rw [h] at hnode
    cases hnode

theorem mismatch?_symbols_eq_none_iff {symbol symbol' : Symbol} :
    (Trail.symbols symbol symbol').mismatch? = none ↔
      symbol = symbol' ∨ symbol.isUser = true := by
  unfold Trail.symbols
  split <;> simp_all [Trail.note, Trail.stop]

/-- An alignment runs to its end when every pattern node admits the subject node that it faces. -/
theorem mismatch?_align_eq_none_iff (pattern : Expr) : ∀ subject : Expr,
    (align pattern subject).mismatch? = none ↔ pattern.AlignedWith subject := by
  induction pattern using Expr.induction with
  | ident span wildcard =>
    intro subject
    rw [alignedWith_iff_of_leaf (fun i π => rfl)]
    simp only [align, Trail.capture, Admits]
    cases wildcard.decl <;> simp [Trail.stop, Trail.note]
  | literal span value =>
    intro subject
    rw [alignedWith_iff_of_leaf (fun i π => rfl)]
    cases subject with
    | literal span' value' =>
      simp only [align, Admits]
      split <;> simp_all [Trail.stop, Trail.note]
    | _ => simp [align, Admits, Trail.stop]
  | apply span symbol args argsIH =>
    intro subject
    cases subject with
    | apply span' symbol' args' =>
      -- the shape is settled first, then the symbols, then the arguments place by place
      rw [alignedWith_apply_iff]
      simp only [align, Admits]
      split
      · rename_i hlength
        rw [Trail.mismatch?_andThen_eq_none_iff, mismatch?_symbols_eq_none_iff,
          mismatch?_alignAll_eq_none_iff, and_iff_right hlength]
        refine and_congr_right fun _ => forall_congr' fun i => forall_congr' fun arg =>
          forall_congr' fun arg' => forall_congr' fun harg => forall_congr' fun _ => ?_
        exact argsIH arg (List.mem_of_getElem? harg) arg'
      · simp_all [Trail.stop]
    | _ =>
      refine iff_of_false ?_ fun h => h.admits
      simp [align, Trail.stop]
  | quantified span quantifier binders body bodyIH =>
    intro subject
    cases subject with
    | quantified span' quantifier' binders' body' =>
      rw [alignedWith_quantified_iff]
      simp only [align, Admits]
      split
      · rename_i hshape
        rw [Trail.mismatch?_andThen_eq_none_iff, and_iff_right hshape,
          and_iff_right (Trail.mismatch?_binders ..), bodyIH]
      · simp_all [Trail.stop]
    | _ =>
      refine iff_of_false ?_ fun h => h.admits
      simp [align, Trail.stop]

/-! ## The pairings of an alignment -/

/-- The pairings that two nodes make by themselves, the parts of both left aside. -/
def nodePairings : Expr → Expr → List Pairing
  | .ident _ wildcard, subject => (Trail.capture wildcard subject).pairings
  | .apply _ symbol _, .apply _ symbol' _ => [.symbols symbol symbol']
  | .quantified _ _ binders _, .quantified span _ binders' _ =>
    (Trail.binders span binders binders').pairings
  | _, _ => []

/-- The pairings of the nodes at the ends of two paths, if there are nodes at both. -/
def pairingsOf : Option Expr → Option Expr → List Pairing
  | some node, some node' => nodePairings node node'
  | _, _ => []

theorem pairings_alignAll_of {patterns : List Expr}
    (h : ∀ pattern ∈ patterns, ∀ subject, (align pattern subject).mismatch? = none →
      (align pattern subject).pairings =
        pattern.paths.flatMap fun π => pairingsOf (pattern.at? π) (subject.at? π)) :
    ∀ subjects : List Expr, patterns.length = subjects.length →
      (alignAll patterns subjects).mismatch? = none →
      (alignAll patterns subjects).pairings =
        (pathsAll patterns).flatMap fun path =>
          pairingsOf (atAll? patterns path) (atAll? subjects path) := by
  induction patterns with
  | nil => intro subjects _ _; simp [alignAll, Trail.note, pathsAll]
  | cons pattern patterns ih =>
    intro subjects hlength hend
    cases subjects with
    | nil => cases hlength
    | cons subject subjects =>
      -- paths into the row lead into the first expression or, one place further on, into the rest
      rw [alignAll, Trail.mismatch?_andThen_eq_none_iff] at hend
      have hfirst := h pattern List.mem_cons_self subject hend.1
      have hrest := ih (fun p hp => h p (List.mem_cons_of_mem _ hp)) subjects
        (Nat.succ.inj hlength) hend.2
      rw [alignAll, Trail.pairings_andThen_of hend.1, hfirst, hrest, pathsAll,
        List.flatMap_append, List.flatMap_map, List.flatMap_map]
      rfl

/-- An alignment that runs to its end has made the pairings of every path of the pattern. -/
theorem pairings_align_of (pattern : Expr) : ∀ subject : Expr,
    (align pattern subject).mismatch? = none →
    (align pattern subject).pairings =
      pattern.paths.flatMap fun π => pairingsOf (pattern.at? π) (subject.at? π) := by
  induction pattern using Expr.induction with
  | ident span wildcard =>
    intro subject _
    simp [align, paths, pairingsOf, nodePairings]
  | literal span value =>
    intro subject _
    cases subject with
    | literal span' value' =>
      simp only [align, paths]
      split <;> rfl
    | _ => rfl
  | apply span symbol args argsIH =>
    intro subject hend
    cases subject with
    | apply span' symbol' args' =>
      simp only [align] at hend ⊢
      split at hend
      · rename_i hlength
        rw [Trail.mismatch?_andThen_eq_none_iff] at hend
        have hsymbols : (Trail.symbols symbol symbol').pairings = [.symbols symbol symbol'] := by
          unfold Trail.symbols
          rw [if_pos (mismatch?_symbols_eq_none_iff.mp hend.1)]
          rfl
        rw [if_pos hlength, Trail.pairings_andThen_of hend.1, hsymbols,
          pairings_alignAll_of argsIH args' hlength hend.2, paths, List.flatMap_cons,
          List.flatMap_map]
        rfl
      · cases hend
    | _ => cases hend
  | quantified span quantifier binders body bodyIH =>
    intro subject hend
    cases subject with
    | quantified span' quantifier' binders' body' =>
      simp only [align] at hend ⊢
      split at hend
      · rename_i hshape
        rw [Trail.mismatch?_andThen_eq_none_iff] at hend
        rw [if_pos hshape, Trail.pairings_andThen_of hend.1, bodyIH body' hend.2, paths,
          List.flatMap_cons, List.flatMap_map]
        rfl
      · cases hend
    | _ => cases hend

end Expr

end Graft
