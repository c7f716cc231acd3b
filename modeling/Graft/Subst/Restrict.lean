import Graft.Command.Parts
import Graft.Subst.Basic
import Graft.Traversal.Identifiers

/-!
# What a fragment mentions

The handles and the names by which a fragment can ask a substitution for anything, and the part of a
substitution that has entries for these alone.
-/

namespace Graft

namespace Fragment

/-- The handles that a fragment mentions: those of its identifiers, written variables and binders. -/
def handles (fragment : Fragment) : List Handle :=
  (fragment.identifiers ++ fragment.binders).filterMap Ident.decl

/-- The names that a fragment mentions: those of the functions that it applies and of the procedures
that it calls. -/
def names (fragment : Fragment) : List String :=
  fragment.symbols.map Symbol.name ++ fragment.callees

end Fragment

namespace Subst

/-- The entries of a substitution for the given handles and names. -/
def restrict (σ : Subst) (handles : List Handle) (names : List String) : Subst where
  values := σ.values.filter fun handle _ => handle ∈ handles
  functions := σ.functions.filter fun name _ => name ∈ names

variable {σ : Subst} {handles : List Handle} {names : List String}

theorem value?_restrict_of_mem {handle : Handle} (h : handle ∈ handles) :
    (σ.restrict handles names).value? handle = σ.value? handle := by
  rw [restrict, value?, Std.ExtTreeMap.getElem?_filter', value?]
  cases σ.values[handle]? with
  | none => rfl
  | some expr => exact Option.filter_some_pos (decide_eq_true h)

theorem function?_restrict_of_mem {name : String} (h : name ∈ names) :
    (σ.restrict handles names).function? name = σ.function? name := by
  rw [restrict, function?, Std.ExtTreeMap.getElem?_filter', function?]
  cases σ.functions[name]? with
  | none => rfl
  | some symbol => exact Option.filter_some_pos (decide_eq_true h)

theorem ident?_restrict_of_mem {id : Ident} (h : ∀ handle, id.decl = some handle → handle ∈ handles) :
    (σ.restrict handles names).ident? id = σ.ident? id := by
  unfold ident?
  cases hdecl : id.decl with
  | none => rfl
  | some handle => exact value?_restrict_of_mem (h handle hdecl)

theorem isEmpty_iff : σ.isEmpty = true ↔ σ = empty := by
  obtain ⟨values, functions⟩ := σ
  simp [isEmpty, empty, Std.ExtTreeMap.isEmpty_iff]

end Subst

end Graft
