import Graft.Proofs.Match.Captured
import Graft.Proofs.Subst.Scope

/-!
# Matching and instantiating

A strict match tells enough to rebuild the subject from the pattern: instantiating the pattern with
what was captured gives an expression similar to the subject (`similar_instantiate_of_match`).
-/

namespace Graft

/-! ## Rebuilding from pairings -/

/-- Holds when the pattern's side of a pairing is instantiated as the subject's side. A captured
identifier has to come back with its name, since binders are compared exactly. -/
def Subst.Restores (σ : Subst) : Pairing → Prop
  | .capture handle _ subject =>
    ∃ expr, σ.value? handle = some expr ∧ expr.similar subject = true ∧
      ∀ id, subject.ident? = some id → expr.ident? = some id
  | .symbols pattern subject => σ.rename pattern = subject

namespace Expr

variable {σ : Subst} {options : Options} {pattern subject : Expr}

section Binders

variable {span : Span} {binders binders' : List Ident}

/-- What a restored binder is bound to is the binder that it faces. -/
theorem ident?_of_restores
    (hrestores : ∀ pairing ∈ (Trail.binders span binders binders').pairings,
      σ.Restores pairing) {i : Nat} {binder binder' : Ident} {handle : Handle}
    (hbinder : binders[i]? = some binder) (hbinder' : binders'[i]? = some binder')
    (hdecl : binder.decl = some handle) :
    ∃ expr, σ.value? handle = some expr ∧ expr.ident? = some binder' := by
  have hmem : .capture handle binder.name (.ident span binder') ∈
      (Trail.binders span binders binders').pairings :=
    Trail.mem_pairings_binders_iff.mpr ⟨i, binder, binder', handle, hbinder, hbinder', hdecl, rfl⟩
  rcases hrestores _ hmem with ⟨expr, hvalue, -, hident⟩
  exact ⟨expr, hvalue, hident binder' rfl⟩

theorem map_scopedBinder_of_restores (hlength : binders.length = binders'.length)
    (hbinders : ∀ binder ∈ binders, binder.decl.isSome = true)
    (hrestores : ∀ pairing ∈ (Trail.binders span binders binders').pairings,
      σ.Restores pairing) :
    binders.map σ.scopedBinder = binders' := by
  refine List.ext_getElem (by rw [List.length_map, hlength]) ?_
  intro i hi hi'
  rw [List.length_map] at hi
  rw [List.getElem_map]
  rcases Option.isSome_iff_exists.mp (hbinders _ (List.getElem_mem hi)) with ⟨handle, hdecl⟩
  have hget := List.getElem?_eq_getElem hi
  have hget' := List.getElem?_eq_getElem hi'
  rcases ident?_of_restores hrestores hget hget' hdecl with ⟨expr, hvalue, hident⟩
  rw [Subst.scopedBinder_of_value? hdecl hvalue, hident, Option.getD_some]

theorem under_eq_self_of_restores (hlength : binders.length = binders'.length)
    (hrestores : ∀ pairing ∈ (Trail.binders span binders binders').pairings,
      σ.Restores pairing) :
    σ.under binders = σ := by
  refine Subst.under_eq_self ?_
  intro binder hbinder expr hexpr
  rcases Option.bind_eq_some_iff.mp hexpr with ⟨handle, hdecl, hvalue⟩
  rcases List.mem_iff_getElem?.mp hbinder with ⟨i, hget⟩
  rcases exists_getElem?_of_length_eq hlength.symm hget with ⟨binder', hget'⟩
  rcases ident?_of_restores hrestores hget hget' hdecl with ⟨expr', hvalue', hident⟩
  rw [hvalue, Option.some.injEq] at hvalue'
  rw [hvalue', hident]
  rfl

end Binders

/-- A pattern is rebuilt as the subject if all pairings of the two are. -/
theorem similar_scopedExpr_of_restores (pattern : Expr) : ∀ subject : Expr,
    pattern.AlignedWith subject → (∀ binder ∈ pattern.binders, binder.decl.isSome = true) →
    (∀ π, ∀ pairing ∈ pairingsOf (pattern.at? π) (subject.at? π), σ.Restores pairing) →
    (σ.scopedExpr pattern).similar subject = true := by
  induction pattern using Expr.induction with
  | ident span wildcard =>
    intro subject haligned _ hrestores
    rcases Option.isSome_iff_exists.mp haligned.admits with ⟨handle, hdecl⟩
    have hmem : .capture handle wildcard.name subject ∈
        nodePairings (.ident span wildcard) subject := by
      rw [nodePairings, Trail.capture, hdecl]
      exact List.mem_singleton.mpr rfl
    have hpairing := mem_pairingsOf_iff.mpr ⟨_, _, at?_nil _, at?_nil subject, hmem⟩
    rcases hrestores [] _ hpairing with ⟨expr, hvalue, hsimilar, -⟩
    have hscoped : σ.scopedExpr (.ident span wildcard) = expr := by
      rw [Subst.scopedExpr, Subst.ident?, hdecl, Option.bind_some, hvalue, Option.getD_some]
    rw [hscoped]
    exact hsimilar
  | literal span value =>
    intro subject haligned _ _
    rw [Subst.scopedExpr]
    exact similar_literal_iff.mpr (admits_literal_iff.mp haligned.admits)
  | apply span symbol args argsIH =>
    intro subject haligned hbinders hrestores
    rcases admits_apply_iff.mp haligned.admits with ⟨span', symbol', args', rfl, hlength, -⟩
    have hargs := (alignedWith_apply_iff.mp haligned).2
    have hsymbol : σ.rename symbol = symbol' := hrestores [] _ (List.mem_singleton.mpr rfl)
    -- the pairings of an argument are those of the application along the paths into it
    have hsimilars : similars (σ.scopedExprs args) args' = true := by
      rw [similars_iff, Subst.scopedExprs_eq_map, List.length_map]
      refine ⟨hlength, ?_⟩
      intro i expr arg' hexpr harg'
      rw [List.getElem?_map] at hexpr
      rcases Option.map_eq_some_iff.mp hexpr with ⟨arg, harg, rfl⟩
      have hmem := List.mem_of_getElem? harg
      refine argsIH arg hmem arg' (hargs i arg arg' harg harg') ?_ ?_
      · intro binder hbinder
        exact hbinders binder (binders_subset_of_mem hmem hbinder)
      · intro π
        have hpath := hrestores (i :: π)
        rwa [at?_apply_cons, at?_apply_cons, atAll?, atAll?, harg, harg'] at hpath
    rw [Subst.scopedExpr, hsymbol]
    exact similar_apply_iff.mpr ⟨span', args', rfl, hsimilars⟩
  | quantified span quantifier binders body bodyIH =>
    intro subject haligned hbinders hrestores
    rcases admits_quantified_iff.mp haligned.admits with ⟨span', binders', body', rfl, hlength⟩
    have hbody := (alignedWith_quantified_iff.mp haligned).2
    have hown : ∀ binder ∈ binders, binder.decl.isSome = true := fun binder hbinder =>
      hbinders binder (List.mem_append_left _ hbinder)
    -- restored binders are bound to identifiers, so the body has all of `σ` in scope
    have hunder := under_eq_self_of_restores hlength (hrestores [])
    have hmap := map_scopedBinder_of_restores hlength hown (hrestores [])
    have hsimilar := bodyIH body' hbody
      (fun binder hbinder => hbinders binder (List.mem_append_right _ hbinder))
      (fun π => hrestores (0 :: π))
    rw [Subst.scopedExpr, hunder, hmap]
    exact similar_quantified_iff.mpr ⟨span', body', rfl, hsimilar⟩

/-! ## What a match restores -/

/-- A strict match restores every pairing, if the subject's names go with its handles and no other
symbol of the pattern is named like one of its user functions. -/
theorem restores_of_match (hmatch : pattern.matchAgainst options subject = .ok σ)
    (hstrict : options.strictFunctionCapture = true)
    (hsymbols : ∀ f ∈ pattern.symbols, ∀ g ∈ pattern.symbols,
      f.isUser = true → g.isUser = false → f.name ≠ g.name)
    (hnames : ∀ a ∈ subject.identifiers ++ subject.binders,
      ∀ b ∈ subject.identifiers ++ subject.binders,
        a.decl.isSome = true → a.decl = b.decl → a.name = b.name) :
    ∀ π, ∀ pairing ∈ pairingsOf (pattern.at? π) (subject.at? π), σ.Restores pairing := by
  intro π pairing hpairing
  cases pairing with
  | capture handle name expr =>
    have hcaptures := capture_mem_pairingsOf hpairing
    rcases value?_of_captures hmatch hcaptures with ⟨first, hvalue, hsimilar⟩
    refine ⟨first, hvalue, hsimilar, ?_⟩
    intro id hident
    -- the first capture is the same identifier, and so has the same name
    rcases ident?_of_similar hsimilar hident with ⟨id', hident', hsame⟩
    have hid := hcaptures.ident_mem hident
    have hid' := (captures_of_value? hmatch hvalue).ident_mem hident'
    rw [hident', Ident.eq_of_same hsame (hnames id' hid' id hid)]
  | symbols f g =>
    have hat := symbols_mem_pairingsOf_iff.mp hpairing
    show σ.rename f = g
    cases huser : f.isUser with
    | true =>
      rcases function?_of_symbolsAt hmatch hat huser with ⟨first, hfunction, heq⟩
      rw [Subst.rename, hfunction, Option.getD_some, heq hstrict]
    | false =>
      -- nothing is captured under the name of an operator or an unresolved call
      have hnone : σ.function? f.name = none := by
        rw [← Option.not_isSome_iff_eq_none, isSome_function?_iff_of_match hmatch]
        rintro ⟨f', hf', huser', hname⟩
        exact hsymbols f' hf' f hat.mem_symbols huser' huser hname
      have heq : f = g := by
        rcases hat.eq_or_isUser (alignedWith_of_match hmatch) with heq | htrue
        · exact heq
        · rw [huser] at htrue
          cases htrue
      rw [Subst.rename, hnone, Option.getD_none, heq]

/-! ## The round trip -/

/-- Instantiating a pattern with what it has captured in a strict match gives the subject up to
similarity. Unresolved binders are not captured and so have to be excluded. An operator or unresolved
call that is named like a user function would be renamed with it. A binder is rebuilt under the name of
the first occurrence of its handle. -/
theorem similar_instantiate_of_match
    (hmatch : pattern.matchAgainst options subject = .ok σ)
    (hstrict : options.strictFunctionCapture = true)
    (hbinders : ∀ binder ∈ pattern.binders, binder.decl.isSome = true)
    (hsymbols : ∀ f ∈ pattern.symbols, ∀ g ∈ pattern.symbols,
      f.isUser = true → g.isUser = false → f.name ≠ g.name)
    (hnames : ∀ a ∈ subject.identifiers ++ subject.binders,
      ∀ b ∈ subject.identifiers ++ subject.binders,
        a.decl.isSome = true → a.decl = b.decl → a.name = b.name) :
    ∃ rebuilt, σ.instantiate (.expr pattern) = .ok (.expr rebuilt) ∧
      rebuilt.similar subject = true := by
  refine ⟨σ.scopedExpr pattern, σ.instantiate_expr pattern, ?_⟩
  exact similar_scopedExpr_of_restores pattern subject (alignedWith_of_match hmatch) hbinders
    (restores_of_match hmatch hstrict hsymbols hnames)

/-- `w && forall x, z :: f(x, y) == (exists k :: f(y, k))`, where `w` and `x` have one handle. -/
def sharedPattern : Expr :=
  .apply .synthetic (.binary .and) [.ident .synthetic ⟨"w", some ⟨1⟩⟩,
    .quantified .synthetic .forall [⟨"x", some ⟨1⟩⟩, ⟨"z", some ⟨3⟩⟩]
      (.apply .synthetic (.binary .eq) [
        .apply .synthetic (.call "f" (some ⟨9⟩))
          [.ident .synthetic ⟨"x", some ⟨1⟩⟩, .ident .synthetic ⟨"y", some ⟨2⟩⟩],
        .quantified .synthetic .exists [⟨"k", some ⟨4⟩⟩]
          (.apply .synthetic (.call "f" (some ⟨9⟩))
            [.ident .synthetic ⟨"y", some ⟨2⟩⟩, .ident .synthetic ⟨"k", some ⟨4⟩⟩])])]

/-- `u && forall u, v :: u + -v == (exists t :: -v + t)`, where both `-v` have their own span. -/
def sharedSubject : Expr :=
  .apply .synthetic (.binary .and) [.ident .synthetic ⟨"u", some ⟨7⟩⟩,
    .quantified .synthetic .forall [⟨"u", some ⟨7⟩⟩, ⟨"v", some ⟨6⟩⟩]
      (.apply .synthetic (.binary .eq) [
        .apply .synthetic (.binary .add) [.ident .synthetic ⟨"u", some ⟨7⟩⟩,
          .apply ⟨20, 2⟩ (.unary .neg) [.ident ⟨21, 1⟩ ⟨"v", some ⟨6⟩⟩]],
        .quantified .synthetic .exists [⟨"t", some ⟨5⟩⟩]
          (.apply .synthetic (.binary .add) [
            .apply ⟨39, 2⟩ (.unary .neg) [.ident ⟨40, 1⟩ ⟨"v", some ⟨6⟩⟩],
            .ident .synthetic ⟨"t", some ⟨5⟩⟩])])]

/-- The round trip with a handle that is both free and bound, a repeated wildcard, a repeated
function that faces an operator, and one quantifier inside another. -/
theorem similar_instantiate_of_match_shared :
    ∃ σ rebuilt, sharedPattern.matchAgainst {} sharedSubject = .ok σ ∧
      σ.instantiate (.expr sharedPattern) = .ok (.expr rebuilt) ∧
      rebuilt.similar sharedSubject = true := by
  have hmatch : sharedPattern.matchAgainst {} sharedSubject = .ok _ := rfl
  have htrip := similar_instantiate_of_match hmatch rfl (by decide) (by decide) (by decide)
  rcases htrip with ⟨rebuilt, hrebuilt, hsimilar⟩
  exact ⟨_, rebuilt, hmatch, hrebuilt, hsimilar⟩

end Expr

end Graft
