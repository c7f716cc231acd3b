import Graft.Expr.Similar
import Graft.Proofs.Subst.Faults

/-!
# Written and read locations

A target and the expression that reads the same location are instantiated alike, as long as nothing
is captured under the name of map selection: for each level of indices the target keeps one, and the
expression an application of map selection (`instantiate_target_reads_alike`).
-/

namespace Graft

namespace Subst

variable {σ : Subst}

/-- A variable is renamed to what its use as an expression becomes, if that is an identifier. -/
theorem renames_iff_ident?_instantiateExpr {id id' : Ident} (span : Span) :
    σ.Renames id id' ↔ (σ.instantiateExpr (.ident span id)).ident? = some id' := by
  rw [instantiateExpr_eq_scopedExpr, scopedExpr]
  unfold Renames
  cases σ.ident? id with
  | none => simp [Expr.ident?, eq_comm]
  | some bound => cases bound <;> simp [Expr.ident?]

theorem renames_root_of_becomes {target target' : Target} (h : target.Becomes σ target') :
    σ.Renames target.root target'.root := by
  induction h with
  | «variable» span renames => exact renames
  | cell span indices becomes ih => exact ih

/-- Level by level: an index is instantiated in one and the same way in both, and the base below it by
induction. -/
theorem read_similar_of_becomes (hselect : σ.function? "MapSelect" = none) {target target' : Target}
    (h : target.Becomes σ target') :
    target'.read.similar (σ.instantiateExpr target.read) = true := by
  induction h with
  | «variable» span renames =>
    -- the name is the same on both sides, and only the spans may differ
    obtain ⟨span', hread⟩ := Expr.ident?_eq_some_iff.mp
      ((renames_iff_ident?_instantiateExpr span).mp renames)
    rw [Target.read, Target.read, hread]
    exact Expr.similar_refl (.ident span _)
  | @cell span base base' indices becomes ih =>
    have hsymbol : σ.rename .mapSelect = .mapSelect := by
      rw [rename, Symbol.name, hselect, Option.getD_none]
    have hread : σ.instantiateExpr (.cell span base indices : Target).read =
        .apply span .mapSelect (σ.instantiateExpr base.read :: indices.map σ.instantiateExpr) := by
      rw [Target.read, funext σ.instantiateExpr_eq_scopedExpr, scopedExpr, scopedExprs_eq_map,
        hsymbol, List.map_cons]
    rw [hread, Target.read, Expr.similar, Expr.similars, ih, Expr.similars_refl]
    rfl

/-- A target is instantiated exactly if its root, used as an expression, becomes an identifier. Then
that identifier is the root of the target that it becomes, and what reads the location of the latter
is similar to the instance of what reads the location of the former. -/
theorem instantiate_target_reads_alike (hselect : σ.function? "MapSelect" = none) (target : Target)
    (span : Span) :
    ((∃ woven, σ.instantiate (.target target) = .ok woven) ↔
      ∃ id, (σ.instantiateExpr (.ident span target.root)).ident? = some id) ∧
    ∀ woven, σ.instantiate (.target target) = .ok woven →
      ∃ target', woven = .target target' ∧
        target'.read.similar (σ.instantiateExpr target.read) = true ∧
        (σ.instantiateExpr (.ident span target.root)).ident? = some target'.root := by
  have hanswers := σ.answers_instantiate (.target target)
  refine ⟨?_, ?_⟩
  · -- the root is the only variable that is written
    rw [hanswers.exists_eq_ok_iff, Fragment.writes, List.findSome?_cons, List.findSome?_nil]
    simp only [← renames_iff_ident?_instantiateExpr, ← target.write_id, ← fault?_eq_none_iff]
    cases σ.fault? target.write <;> simp
  · intro woven hwoven
    cases hanswers.of_eq_ok hwoven with
    | @target _ target' hbecomes =>
      exact ⟨target', rfl, read_similar_of_becomes hselect hbecomes,
        (renames_iff_ident?_instantiateExpr span).mp (renames_root_of_becomes hbecomes)⟩

/-- `m[x][forall x :: x]`. -/
def nestedCell : Target :=
  .cell ⟨0, 20⟩ (.cell ⟨0, 4⟩ (.variable ⟨0, 1⟩ ⟨"m", some ⟨1⟩⟩) [.ident ⟨2, 1⟩ ⟨"x", some ⟨2⟩⟩])
    [.quantified ⟨5, 14⟩ .forall [⟨"x", some ⟨2⟩⟩] (.ident ⟨17, 1⟩ ⟨"x", some ⟨2⟩⟩)]

/-- With `n` for `m` and `5` for `x`, what is written is `n[5][forall x :: x]`, and so is what is read. -/
theorem instantiate_target_reads_alike_nested :
    renamedMap.function? "MapSelect" = none ∧
      ∃ target', renamedMap.instantiate (.target nestedCell) = .ok (.target target') ∧
        target'.read.similar (renamedMap.instantiateExpr nestedCell.read) = true ∧
        target'.root = ⟨"n", some ⟨7⟩⟩ := by
  have hselect : renamedMap.function? "MapSelect" = none := rfl
  have halike := instantiate_target_reads_alike hselect nestedCell ⟨0, 1⟩
  obtain ⟨woven, hwoven⟩ := halike.1.mpr ⟨⟨"n", some ⟨7⟩⟩, rfl⟩
  obtain ⟨target', rfl, hread, hroot⟩ := halike.2 woven hwoven
  exact ⟨hselect, target', hwoven, hread, (Option.some.inj hroot).symm⟩

end Subst

end Graft
