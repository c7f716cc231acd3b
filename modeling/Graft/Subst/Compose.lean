import Graft.Subst.Instantiate

/-!
# Substitutions one after the other

What two substitutions do to a template in turn, as one substitution. The second one is applied to
what the first one inserts, be it an expression or a symbol, and stands where the first one binds
nothing.
-/

namespace Graft

namespace Subst

/-- What `σ` binds, instantiated by `τ`, and what `τ` binds besides. -/
def andThen (σ τ : Subst) : Subst where
  values := τ.values ∪ σ.values.map fun _ expr => τ.instantiateExpr expr
  functions := τ.functions ∪ σ.functions.map fun _ symbol => τ.rename symbol

theorem value?_andThen (σ τ : Subst) (handle : Handle) :
    (σ.andThen τ).value? handle =
      ((σ.value? handle).map τ.instantiateExpr).or (τ.value? handle) := by
  simp [andThen, value?, Std.ExtTreeMap.getElem?_union]

theorem function?_andThen (σ τ : Subst) (name : String) :
    (σ.andThen τ).function? name = ((σ.function? name).map τ.rename).or (τ.function? name) := by
  simp [andThen, function?, Std.ExtTreeMap.getElem?_union]

theorem ident?_andThen (σ τ : Subst) (id : Ident) :
    (σ.andThen τ).ident? id = ((σ.ident? id).map τ.instantiateExpr).or (τ.ident? id) := by
  unfold ident?
  cases id.decl with
  | none => rfl
  | some handle => exact value?_andThen σ τ handle

theorem ident?_andThen_of_none {σ τ : Subst} {id : Ident} (h : σ.ident? id = none) :
    (σ.andThen τ).ident? id = τ.ident? id := by
  rw [ident?_andThen, h, Option.map_none, Option.none_or]

theorem ident?_andThen_of_some {σ τ : Subst} {id : Ident} {expr : Expr}
    (h : σ.ident? id = some expr) :
    (σ.andThen τ).ident? id = some (τ.instantiateExpr expr) := by
  rw [ident?_andThen, h, Option.map_some, Option.some_or]

/-- Symbols are renamed one after the other, the second time by the name that they then have. -/
theorem rename_andThen (σ τ : Subst) (symbol : Symbol) :
    (σ.andThen τ).rename symbol = τ.rename (σ.rename symbol) := by
  rw [rename, function?_andThen]
  unfold rename
  cases σ.function? symbol.name with
  | none => rw [Option.map_none, Option.none_or, Option.getD_none]
  | some renamed => rw [Option.map_some, Option.some_or, Option.getD_some, Option.getD_some]

end Subst

end Graft
