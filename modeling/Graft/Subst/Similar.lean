import Graft.Expr.Similar
import Graft.Subst.Basic

/-!
# Similar substitutions

Two substitutions are *similar* when they bind the same handles to similar expressions and the same
names to the same symbols. As for expressions, this is equality of canonical forms
(`Subst.similar_iff_canon_eq`).
-/

namespace Graft

namespace Subst

/-- The same names are renamed alike, and the same handles are bound, to similar expressions. -/
structure Similar (σ τ : Subst) : Prop where
  functions : σ.functions = τ.functions
  values : ∀ handle, Option.Rel (fun expr expr' => expr.similar expr' = true) (σ.value? handle)
    (τ.value? handle)

/-- Brings everything that is bound into its canonical form. -/
def canon (σ : Subst) : Subst := σ.mapEntries id Expr.canon

theorem value?_canon (σ : Subst) (handle : Handle) :
    σ.canon.value? handle = (σ.value? handle).map Expr.canon :=
  value?_mapEntries Function.injective_id σ handle

theorem rel_similar_iff_map_canon_eq {a b : Option Expr} :
    Option.Rel (fun expr expr' => expr.similar expr' = true) a b ↔
      a.map Expr.canon = b.map Expr.canon := by
  cases a <;> cases b <;> simp [Expr.similar_iff_canon_eq]

/-- Substitutions are similar when their canonical forms are the same. -/
theorem similar_iff_canon_eq {σ τ : Subst} : σ.Similar τ ↔ σ.canon = τ.canon := by
  constructor
  · intro h
    apply ext_lookup
    · intro handle
      rw [value?_canon, value?_canon]
      exact rel_similar_iff_map_canon_eq.mp (h.values handle)
    · intro name
      exact congrArg (·[name]?) h.functions
  · intro h
    have hfunctions : σ.canon.functions = τ.canon.functions := by rw [h]
    refine ⟨hfunctions, ?_⟩
    intro handle
    rw [rel_similar_iff_map_canon_eq, ← value?_canon, ← value?_canon, h]

theorem Similar.refl (σ : Subst) : σ.Similar σ := similar_iff_canon_eq.mpr rfl

end Subst

end Graft
