import Graft.Expr.Basic
import Std.Data.ExtTreeMap

/-!
# Substitutions

What a successful match has captured: expressions for the handles of wildcards, and symbols for the
names of functions. Both maps are ordered and extensional, so two substitutions that answer every
look-up alike are equal (`ext_lookup`).
-/

namespace Graft

/-- Captured expressions by handle and captured symbols by name. -/
structure Subst where
  values : Std.ExtTreeMap Handle Expr
  functions : Std.ExtTreeMap String Symbol

namespace Subst

def empty : Subst := ⟨∅, ∅⟩

instance : Inhabited Subst := ⟨empty⟩

def isEmpty (σ : Subst) : Bool := σ.values.isEmpty && σ.functions.isEmpty

def value? (σ : Subst) (handle : Handle) : Option Expr := σ.values[handle]?

def function? (σ : Subst) (name : String) : Option Symbol := σ.functions[name]?

/-- Captures an expression, in place of any earlier one. -/
def bind (σ : Subst) (handle : Handle) (expr : Expr) : Subst :=
  { σ with values := σ.values.insert handle expr }

/-- Captures a symbol, in place of any earlier one. -/
def bindFunction (σ : Subst) (name : String) (symbol : Symbol) : Subst :=
  { σ with functions := σ.functions.insert name symbol }

def unbind (σ : Subst) (handle : Handle) : Subst :=
  { σ with values := σ.values.erase handle }

/-- The substitution with the given entries, of which later ones win. -/
def ofLists (values : List (Handle × Expr)) (functions : List (String × Symbol)) : Subst :=
  ⟨.ofList values, .ofList functions⟩

/-- Binds other handles, and to other expressions, entry by entry. -/
def mapEntries (r : Handle → Handle) (f : Expr → Expr) (σ : Subst) : Subst :=
  { σ with values := .ofList (σ.values.toList.map fun (handle, expr) => (r handle, f expr)) }

/-- The expression captured for what an identifier denotes. -/
def ident? (σ : Subst) (id : Ident) : Option Expr := id.decl.bind σ.value?

/-- What stands for a handle: what it is bound to, or a use of the handle itself. -/
def image (σ : Subst) (handle : Handle) : Expr :=
  (σ.value? handle).getD (.ident .synthetic ⟨"", some handle⟩)

/-- An identifier becomes another one: the one that it is bound to, or itself while it is unbound. -/
def Renames (σ : Subst) (id id' : Ident) : Prop :=
  σ.ident? id = none ∧ id' = id ∨ ∃ span, σ.ident? id = some (.ident span id')

/-- The symbol to write for a template's symbol. -/
def rename (σ : Subst) (symbol : Symbol) : Symbol := (σ.function? symbol.name).getD symbol

/-- The callee to write for a template's callee: only a captured call can replace it. -/
def callee (σ : Subst) (name : String) (decl : Option Handle) : String × Option Handle :=
  match σ.function? name with
  | some (.call name' decl') => (name', decl')
  | _ => (name, decl)

/-! ## Look-ups determine a substitution -/

@[ext] theorem ext_lookup {σ τ : Subst} (values : ∀ handle, σ.value? handle = τ.value? handle)
    (functions : ∀ name, σ.function? name = τ.function? name) : σ = τ := by
  obtain ⟨σv, σf⟩ := σ
  obtain ⟨τv, τf⟩ := τ
  congr
  · exact Std.ExtTreeMap.ext_getElem? values
  · exact Std.ExtTreeMap.ext_getElem? functions

@[simp] theorem value?_empty (handle : Handle) : empty.value? handle = none := by
  simp [empty, value?]

@[simp] theorem function?_empty (name : String) : empty.function? name = none := by
  simp [empty, function?]

theorem value?_bind (σ : Subst) (handle handle' : Handle) (expr : Expr) :
    (σ.bind handle expr).value? handle' =
      if handle = handle' then some expr else σ.value? handle' := by
  simp [bind, value?, Std.ExtTreeMap.getElem?_insert]

theorem function?_bindFunction (σ : Subst) (name name' : String) (symbol : Symbol) :
    (σ.bindFunction name symbol).function? name' =
      if name = name' then some symbol else σ.function? name' := by
  simp [bindFunction, function?, Std.ExtTreeMap.getElem?_insert]

theorem value?_unbind (σ : Subst) (handle handle' : Handle) :
    (σ.unbind handle).value? handle' = if handle = handle' then none else σ.value? handle' := by
  simp [unbind, value?, Std.ExtTreeMap.getElem?_erase]

@[simp] theorem function?_bind (σ : Subst) (handle : Handle) (expr : Expr) :
    (σ.bind handle expr).function? = σ.function? := rfl

@[simp] theorem value?_bindFunction (σ : Subst) (name : String) (symbol : Symbol) :
    (σ.bindFunction name symbol).value? = σ.value? := rfl

@[simp] theorem function?_unbind (σ : Subst) (handle : Handle) :
    (σ.unbind handle).function? = σ.function? := rfl

/-! ## Changed entries -/

section MapEntries

variable {r : Handle → Handle} {f : Expr → Expr}

@[simp] theorem function?_mapEntries (σ : Subst) :
    (σ.mapEntries r f).function? = σ.function? := rfl

@[simp] theorem mapEntries_empty : empty.mapEntries r f = empty := rfl

/-- An entry is found under its new handle: as many handles as before are distinct. -/
theorem value?_mapEntries_of_value? (hr : Function.Injective r) {σ : Subst} {handle : Handle}
    {expr : Expr} (h : σ.value? handle = some expr) :
    (σ.mapEntries r f).value? (r handle) = some (f expr) := by
  have hdistinct : (σ.values.toList.map fun (handle, expr) => (r handle, f expr)).Pairwise
      fun a b => ¬ compare a.1 b.1 = .eq := by
    rw [List.pairwise_map]
    refine σ.values.distinct_keys_toList.imp ?_
    intro a b hne heq
    exact hne (Std.compare_eq_iff_eq.mpr (hr (Std.compare_eq_iff_eq.mp heq)))
  have hentry : (handle, expr) ∈ σ.values.toList :=
    Std.ExtTreeMap.mem_toList_iff_getElem?_eq_some.mpr h
  exact Std.ExtTreeMap.getElem?_ofList_of_mem Std.ReflCmp.compare_self hdistinct
    (List.mem_map.mpr ⟨_, hentry, rfl⟩)

theorem value?_mapEntries_eq_some_iff (hr : Function.Injective r) {σ : Subst} {handle : Handle}
    {expr : Expr} : (σ.mapEntries r f).value? handle = some expr ↔
      ∃ handle' expr', r handle' = handle ∧ f expr' = expr ∧ σ.value? handle' = some expr' := by
  constructor
  · intro h
    have hkey : handle ∈ (σ.mapEntries r f).values :=
      Std.ExtTreeMap.mem_iff_isSome_getElem?.mpr (Option.isSome_of_mem h)
    rw [mapEntries, Std.ExtTreeMap.mem_ofList, List.contains_iff_mem, List.map_map, List.mem_map]
      at hkey
    obtain ⟨⟨handle', expr'⟩, hentry, heq⟩ := hkey
    have hvalue : σ.value? handle' = some expr' :=
      Std.ExtTreeMap.mem_toList_iff_getElem?_eq_some.mp hentry
    have hfound := value?_mapEntries_of_value? (f := f) hr hvalue
    change r handle' = handle at heq
    rw [heq, h, Option.some.injEq] at hfound
    exact ⟨handle', expr', heq, hfound.symm, hvalue⟩
  · intro h
    obtain ⟨handle', expr', heq, hexpr, hvalue⟩ := h
    rw [← heq, ← hexpr]
    exact value?_mapEntries_of_value? hr hvalue

theorem value?_mapEntries (hr : Function.Injective r) (σ : Subst) (handle : Handle) :
    (σ.mapEntries r f).value? (r handle) = (σ.value? handle).map f := by
  apply Option.ext
  intro expr
  rw [value?_mapEntries_eq_some_iff hr, Option.map_eq_some_iff]
  constructor
  · intro h
    obtain ⟨handle', expr', heq, hexpr, hvalue⟩ := h
    rw [hr heq] at hvalue
    exact ⟨expr', hvalue, hexpr⟩
  · intro h
    obtain ⟨expr', hvalue, hexpr⟩ := h
    exact ⟨handle, expr', rfl, hexpr, hvalue⟩

theorem value?_mapEntries_of_forall_ne (hr : Function.Injective r) {handle : Handle}
    (h : ∀ handle', r handle' ≠ handle) (σ : Subst) :
    (σ.mapEntries r f).value? handle = none := by
  cases hvalue : (σ.mapEntries r f).value? handle with
  | none => rfl
  | some expr =>
    obtain ⟨handle', _, heq, -⟩ := (value?_mapEntries_eq_some_iff hr).mp hvalue
    exact absurd heq (h handle')

theorem mapEntries_bind (hr : Function.Injective r) (σ : Subst) (handle : Handle) (expr : Expr) :
    (σ.bind handle expr).mapEntries r f = (σ.mapEntries r f).bind (r handle) (f expr) := by
  apply ext_lookup
  · intro handle'
    rw [value?_bind]
    by_cases hrange : ∃ handle'', r handle'' = handle'
    · obtain ⟨handle'', rfl⟩ := hrange
      rw [value?_mapEntries hr, value?_mapEntries hr, value?_bind]
      simp only [hr.eq_iff]
      by_cases heq : handle = handle''
      · rw [if_pos heq, if_pos heq, Option.map_some]
      · rw [if_neg heq, if_neg heq]
    · -- what is no new handle is bound on neither side
      have hne : ∀ handle'', r handle'' ≠ handle' := fun handle'' heq => hrange ⟨handle'', heq⟩
      rw [value?_mapEntries_of_forall_ne hr hne, value?_mapEntries_of_forall_ne hr hne,
        if_neg (hne handle)]
  · intro name
    rfl

theorem mapEntries_id (σ : Subst) : σ.mapEntries id id = σ := by
  apply ext_lookup
  · intro handle
    exact (value?_mapEntries Function.injective_id σ handle).trans Option.map_id_apply
  · intro name
    rfl

end MapEntries

/-! ## Renamed identifiers -/

/-- An identifier stays one unless it is bound to something else. -/
theorem exists_renames_iff {σ : Subst} {id : Ident} :
    (∃ id', σ.Renames id id') ↔ ∀ bound, σ.ident? id = some bound → bound.ident?.isSome = true := by
  unfold Renames
  cases σ.ident? id with
  | none => simp
  | some bound => cases bound <;> simp [Expr.ident?]

/-! ## Renamed symbols -/

theorem rename_eq_of_name_eq {σ : Subst} {f g : Symbol} (hname : f.name = g.name)
    (h : f = g ∨ (σ.function? f.name).isSome = true) : σ.rename f = σ.rename g := by
  rcases h with heq | hsome
  · rw [heq]
  · obtain ⟨symbol, hsymbol⟩ := Option.isSome_iff_exists.mp hsome
    rw [rename, rename, ← hname, hsymbol, Option.getD_some, Option.getD_some]

theorem rename_eq_self {σ : Subst} {symbol : Symbol}
    (h : ∀ renamed, σ.function? symbol.name = some renamed → renamed = symbol) :
    σ.rename symbol = symbol := by
  unfold rename
  cases hsymbol : σ.function? symbol.name with
  | none => rfl
  | some renamed => exact h renamed hsymbol

end Subst

end Graft
