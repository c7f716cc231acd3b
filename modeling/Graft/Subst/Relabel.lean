import Graft.Subst.Basic

/-!
# Relabelled handles

What becomes of expressions and substitutions when other handles are used for the same things. Names,
spans and symbols stay as they are. In a substitution only the keys are relabelled: what is bound to
them comes from elsewhere and is left alone.
-/

namespace Graft

/-- The handle that stands `n` places further on. -/
def Handle.shift (n : Nat) (handle : Handle) : Handle := ⟨handle.index + n⟩

theorem Handle.shift_injective (n : Nat) : Function.Injective (shift n) := by
  intro a b hab
  obtain ⟨a⟩ := a
  obtain ⟨b⟩ := b
  exact congrArg Handle.mk (Nat.add_right_cancel (congrArg Handle.index hab))

def Ident.relabel (r : Handle → Handle) (id : Ident) : Ident := { id with decl := id.decl.map r }

theorem Ident.relabel_of_unresolved {id : Ident} (h : id.decl = none) (r : Handle → Handle) :
    id.relabel r = id := by
  obtain ⟨name, decl⟩ := id
  unfold relabel
  rw [h, Option.map_none, ← h]

namespace Expr

mutual

/-- Relabels the handles of identifiers and binders, those of function symbols left aside. -/
def relabel (r : Handle → Handle) : Expr → Expr
  | .ident span id => .ident span (id.relabel r)
  | .literal span value => .literal span value
  | .apply span symbol args => .apply span symbol (relabelAll r args)
  | .quantified span quantifier binders body =>
    .quantified span quantifier (binders.map (Ident.relabel r)) (relabel r body)

def relabelAll (r : Handle → Handle) : List Expr → List Expr
  | [] => []
  | expr :: rest => relabel r expr :: relabelAll r rest

end

theorem relabelAll_eq_map (r : Handle → Handle) (exprs : List Expr) :
    relabelAll r exprs = exprs.map (relabel r) := by
  induction exprs with
  | nil => rfl
  | cons expr rest ih => rw [relabelAll, ih, List.map_cons]

end Expr

namespace Subst

/-- Relabels the handles that a substitution binds, but not those in what is bound to them. -/
def relabel (r : Handle → Handle) (σ : Subst) : Subst := σ.mapEntries r id

@[simp] theorem function?_relabel (r : Handle → Handle) (σ : Subst) :
    (σ.relabel r).function? = σ.function? := rfl

theorem value?_relabel {r : Handle → Handle} (hr : Function.Injective r) (σ : Subst)
    (handle : Handle) : (σ.relabel r).value? (r handle) = σ.value? handle :=
  (value?_mapEntries hr σ handle).trans Option.map_id_apply

end Subst

end Graft
