import Graft.Proofs.Match.Captured
import Graft.Proofs.Subst.Scope

/-!
# Matching an instance

A pattern matches its own instances, whichever substitution made them, and captures that substitution
again as far as the pattern mentions it (`matchAgainst_instance_recovers`).
-/

namespace Graft

namespace Expr

variable {pattern : Expr} {σ : Subst}

/-! ## What an instance faces -/

/-- A pattern is aligned with its instance. -/
theorem alignedWith_scopedExpr
    (hwildcards : ∀ id ∈ pattern.identifiers, id.decl.isSome = true)
    (hscope : σ.HidesNothingIn pattern)
    (hfixed : ∀ f ∈ pattern.symbols, f.isUser = false →
      ∀ renamed, σ.function? f.name = some renamed → renamed = f) :
    pattern.AlignedWith (σ.scopedExpr pattern) := by
  intro π node hnode
  refine ⟨σ.scopedExpr node, hscope.at?_scopedExpr hnode, ?_⟩
  cases node with
  | ident span wildcard => exact hwildcards wildcard (mem_identifiers_iff.mpr ⟨π, span, hnode⟩)
  | literal span value => exact rfl
  | apply span symbol args =>
    refine ⟨by rw [Subst.scopedExprs_eq_map, List.length_map], ?_⟩
    -- a user function admits whatever it was renamed to, any other symbol only itself
    cases huser : symbol.isUser with
    | true => exact .inr rfl
    | false =>
      have hmem := mem_symbols_iff.mpr ⟨π, span, args, hnode⟩
      exact .inl (Subst.rename_eq_self (hfixed symbol hmem huser)).symm
  | quantified span quantifier binders body => exact ⟨rfl, (List.length_map _).symm⟩

theorem similar_scopedExpr_ident {span : Span} {wildcard id : Ident} {handle : Handle}
    (hdecl : wildcard.decl = some handle) (hid : id.decl = some handle) :
    similar (σ.scopedExpr (.ident span wildcard))
      ((σ.value? handle).getD (.ident .synthetic id)) = true := by
  rw [Subst.scopedExpr, Subst.ident?, hdecl, Option.bind_some]
  cases σ.value? handle with
  | none => exact similar_ident_of_decl_eq hdecl hid
  | some bound => exact similar_refl bound

theorem similar_scopedBinder {span : Span} {binder id : Ident} {handle : Handle}
    (hdecl : binder.decl = some handle) (hid : id.decl = some handle)
    (hbinder : ∀ bound, σ.ident? binder = some bound → bound.ident?.isSome = true) :
    similar (.ident span (σ.scopedBinder binder))
      ((σ.value? handle).getD (.ident .synthetic id)) = true := by
  have hident : σ.ident? binder = σ.value? handle := by
    rw [Subst.ident?, hdecl, Option.bind_some]
  cases hvalue : σ.value? handle with
  | none =>
    rw [hvalue] at hident
    rw [Subst.scopedBinder_of_none hident]
    exact similar_ident_of_decl_eq hdecl hid
  | some bound =>
    rw [hvalue] at hident
    rcases Option.isSome_iff_exists.mp (hbinder bound hident) with ⟨renamed, hrenamed⟩
    rcases ident?_eq_some_iff.mp hrenamed with ⟨span', rfl⟩
    -- the spans differ: a captured binder has the quantifier's, a bound identifier its own
    rw [Subst.scopedBinder_of_value? hdecl hvalue]
    exact similar_refl (.ident span' renamed)

/-- What faces a handle in an instance is what the handle is bound to, or else its identifier. -/
theorem Captures.similar_of_instance
    (hscope : σ.HidesNothingIn pattern) {handle : Handle} {expr : Expr}
    (h : pattern.Captures (σ.scopedExpr pattern) handle expr) {id : Ident}
    (hid : id.decl = some handle) :
    expr.similar ((σ.value? handle).getD (.ident .synthetic id)) = true := by
  cases h with
  | @wildcard π span wildcard expr hpattern hdecl hsubject =>
    have hinstance := hscope.at?_scopedExpr hpattern
    rw [hsubject, Option.some.injEq] at hinstance
    rw [hinstance]
    exact similar_scopedExpr_ident hdecl hid
  | @binder π span span' _ _ binders binders' _ _ i binder binder' hpattern hsubject hbinder hdecl
      hbinder' =>
    have hinstance := hscope.at?_scopedExpr hpattern
    rw [hsubject, Option.some.injEq, Subst.scopedExpr] at hinstance
    cases hinstance
    rw [List.getElem?_map, hbinder, Option.map_some, Option.some.injEq] at hbinder'
    have hown := mem_binders_iff.mpr ⟨π, _, _, _, _, hpattern, List.mem_of_getElem? hbinder⟩
    rw [← hbinder']
    exact similar_scopedBinder hdecl hid (hscope binder hown)

theorem SymbolsAt.eq_rename_of_instance
    (hscope : σ.HidesNothingIn pattern) {π : Path} {symbol symbol' : Symbol}
    (h : pattern.SymbolsAt (σ.scopedExpr pattern) π symbol symbol') :
    symbol' = σ.rename symbol := by
  rcases h with ⟨span, args, span', args', hpattern, hsubject⟩
  have hinstance := hscope.at?_scopedExpr hpattern
  rw [hsubject, Option.some.injEq, Subst.scopedExpr] at hinstance
  cases hinstance
  rfl

/-- Everything that one handle or one user function's name faces in an instance agrees. -/
theorem pairwise_compatible_of_instance {strict : Bool}
    (haligned : pattern.AlignedWith (σ.scopedExpr pattern))
    (hscope : σ.HidesNothingIn pattern)
    (hclash : ∀ f ∈ pattern.symbols, ∀ g ∈ pattern.symbols, f.isUser = true →
      f.name = g.name → f = g ∨ (σ.function? f.name).isSome = true) :
    (align pattern (σ.scopedExpr pattern)).pairings.Pairwise (Pairing.Compatible strict) := by
  refine (pairwise_compatible_iff haligned).mpr ⟨?_, ?_⟩
  · intro handle expr expr' hexpr hexpr'
    rcases hexpr.exists_handle with ⟨id, -, hid⟩
    exact similar_trans (hexpr.similar_of_instance hscope hid)
      (similar_symm (hexpr'.similar_of_instance hscope hid))
  · intro _ π π' f f' g g' _ hat hat' huser hname
    have htogether := hclash f hat.mem_symbols f' hat'.mem_symbols huser hname
    rw [hat.eq_rename_of_instance hscope, hat'.eq_rename_of_instance hscope]
    exact Subst.rename_eq_of_name_eq hname htogether

/-! ## Recovery -/

/-- A pattern matches each of its instances and captures the substitution again: what its handles
were bound to, up to similarity, and what its user functions were renamed to, and nothing else. An
unbound handle captures its own identifier and an unbound name its own symbol.

The conditions are those under which the pattern can tell what was put in. Its identifiers need
handles, a binder may not be hidden, an operator or unresolved call may not be renamed, and symbols
that share a name with a user function have to be renamed together unless they are the same. -/
theorem matchAgainst_instance_recovers (options : Options) (pattern : Expr) (σ : Subst)
    (hwildcards : ∀ id ∈ pattern.identifiers, id.decl.isSome = true)
    (hscope : σ.HidesNothingIn pattern)
    (hfixed : ∀ f ∈ pattern.symbols, f.isUser = false →
      ∀ renamed, σ.function? f.name = some renamed → renamed = f)
    (hclash : ∀ f ∈ pattern.symbols, ∀ g ∈ pattern.symbols, f.isUser = true →
      f.name = g.name → f = g ∨ (σ.function? f.name).isSome = true) :
    ∃ subject τ, σ.instantiate (.expr pattern) = .ok (.expr subject) ∧
      pattern.matchAgainst options subject = .ok τ ∧
      (∀ id ∈ pattern.identifiers ++ pattern.binders, ∀ handle, id.decl = some handle →
        ∃ expr, τ.value? handle = some expr ∧
          expr.similar ((σ.value? handle).getD (.ident .synthetic id)) = true) ∧
      (∀ f ∈ pattern.symbols, f.isUser = true →
        τ.function? f.name = some ((σ.function? f.name).getD f)) ∧
      (∀ handle, (τ.value? handle).isSome = true →
        ∃ id ∈ pattern.identifiers ++ pattern.binders, id.decl = some handle) ∧
      (∀ name, (τ.function? name).isSome = true →
        ∃ f ∈ pattern.symbols, f.isUser = true ∧ f.name = name) := by
  have haligned := alignedWith_scopedExpr hwildcards hscope hfixed
  have hmatches : ∃ τ, pattern.matchAgainst options (σ.scopedExpr pattern) = .ok τ :=
    exists_match_iff_compatible.mpr
      ⟨haligned, pairwise_compatible_of_instance haligned hscope hclash⟩
  rcases hmatches with ⟨τ, hmatch⟩
  refine ⟨σ.scopedExpr pattern, τ, σ.instantiate_expr pattern, hmatch, ?_, ?_, ?_, ?_⟩
  · intro id hid handle hdecl
    have hsome := (isSome_value?_iff_of_match hmatch).mpr ⟨id, hid, hdecl⟩
    rcases Option.isSome_iff_exists.mp hsome with ⟨expr, hvalue⟩
    exact ⟨expr, hvalue, (captures_of_value? hmatch hvalue).similar_of_instance hscope hdecl⟩
  · intro f hf huser
    have hsome := (isSome_function?_iff_of_match hmatch).mpr ⟨f, hf, huser, rfl⟩
    rcases Option.isSome_iff_exists.mp hsome with ⟨g, hfunction⟩
    rcases symbolsAt_of_function? hmatch hfunction with ⟨π, f', hat, huser', hname⟩
    -- the symbol was captured at an application of the same name, which need not be this one
    have hrename := Subst.rename_eq_of_name_eq hname
      (hclash f' hat.mem_symbols f hf huser' hname)
    rw [hfunction, hat.eq_rename_of_instance hscope, hrename, Subst.rename]
  · intro handle hsome
    exact (isSome_value?_iff_of_match hmatch).mp hsome
  · intro name hsome
    exact (isSome_function?_iff_of_match hmatch).mp hsome

/-- `forall x, z :: f(x, y) == f(y)`, where the two functions are declared apart. -/
def overloadedPattern : Expr :=
  .quantified .synthetic .forall [⟨"x", some ⟨1⟩⟩, ⟨"z", some ⟨3⟩⟩]
    (.apply .synthetic (.binary .eq) [
      .apply .synthetic (.call "f" (some ⟨8⟩))
        [.ident .synthetic ⟨"x", some ⟨1⟩⟩, .ident .synthetic ⟨"y", some ⟨2⟩⟩],
      .apply .synthetic (.call "f" (some ⟨9⟩)) [.ident .synthetic ⟨"y", some ⟨2⟩⟩]])

/-- Renames `x` and both functions, and puts `exists t :: t` in the place of `y`. -/
def overloadedSubst : Subst :=
  ((Subst.empty.bind ⟨1⟩ (.ident .synthetic ⟨"u", some ⟨7⟩⟩)).bind ⟨2⟩
    (.quantified .synthetic .exists [⟨"t", some ⟨5⟩⟩] (.ident .synthetic ⟨"t", some ⟨5⟩⟩))).bindFunction
      "f" (.unary .neg)

/-- Recovery of a renamed and an unbound binder, a quantifier put in twice, and two functions of one
name that were renamed together. -/
theorem matchAgainst_overloaded_recovers :
    ∃ subject τ, overloadedSubst.instantiate (.expr overloadedPattern) = .ok (.expr subject) ∧
      overloadedPattern.matchAgainst {} subject = .ok τ ∧
      (∃ expr, τ.value? ⟨3⟩ = some expr ∧
        expr.similar (.ident .synthetic ⟨"z", some ⟨3⟩⟩) = true) ∧
      τ.function? "f" = some (.unary .neg) := by
  have hscope : overloadedSubst.HidesNothingIn overloadedPattern := by
    intro binder hbinder bound hbound
    have hcases : binder = ⟨"x", some ⟨1⟩⟩ ∨ binder = ⟨"z", some ⟨3⟩⟩ := by
      simpa [overloadedPattern] using hbinder
    rcases hcases with rfl | rfl
    · cases hbound
      rfl
    · cases hbound
  have hfixed : ∀ f ∈ overloadedPattern.symbols, f.isUser = false →
      ∀ renamed, overloadedSubst.function? f.name = some renamed → renamed = f := by
    intro f hf huser renamed hrenamed
    have hcases : f = .binary .eq ∨ f = .call "f" (some ⟨8⟩) ∨ f = .call "f" (some ⟨9⟩) := by
      simpa [overloadedPattern] using hf
    rcases hcases with rfl | rfl | rfl
    · cases hrenamed
    · cases huser
    · cases huser
  have hrecovers := matchAgainst_instance_recovers {} overloadedPattern overloadedSubst
    (by decide) hscope hfixed (by decide)
  rcases hrecovers with ⟨subject, τ, hinstance, hmatch, hvalues, hfunctions, -⟩
  have hz := hvalues ⟨"z", some ⟨3⟩⟩ (by decide) ⟨3⟩ rfl
  have hf := hfunctions (.call "f" (some ⟨8⟩)) (by decide) rfl
  exact ⟨subject, τ, hinstance, hmatch, hz, hf⟩

end Expr

end Graft
