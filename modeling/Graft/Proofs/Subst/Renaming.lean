import Graft.Proofs.Match.Captured
import Graft.Proofs.Subst.Scope

/-!
# Renamed applications

What becomes of the applications of a template that is instantiated with a match. Each keeps its
place, its span and its number of arguments. Its symbol is looked up by name alone, so an operator
keeps its symbol unless the pattern applies a user function of the same name
(`instance_renames_by_name`).
-/

namespace Graft

/-- An application becomes one of the renamed symbol, whatever the quantifiers around it hide. -/
theorem Subst.exists_at?_scopedExpr_apply (σ : Subst) {template : Expr} {π : Path} {span : Span}
    {f : Symbol} {args : List Expr} (hnode : template.at? π = some (.apply span f args)) :
    ∃ args', (σ.scopedExpr template).at? π = some (.apply span (σ.rename f) args') ∧
      args'.length = args.length := by
  rcases exists_at?_scopedExpr hnode σ with ⟨hidden, hat⟩
  refine ⟨(σ.hide hidden).scopedExprs args, ?_, ?_⟩
  · -- only values are hidden, so the symbol is renamed as it is outside
    rw [hat, scopedExpr, rename_hide]
  · rw [scopedExprs_eq_map, List.length_map]

namespace Expr

variable {σ : Subst} {options : Options} {pattern subject : Expr}

/-- A match leaves a symbol alone if the pattern has no user function of its name. -/
theorem rename_eq_self_of_match (hmatch : pattern.matchAgainst options subject = .ok σ) {f : Symbol}
    (hfree : ∀ h ∈ pattern.symbols, h.isUser = true → h.name ≠ f.name) : σ.rename f = f := by
  refine Subst.rename_eq_self ?_
  intro renamed hfunction
  rcases symbolsAt_of_function? hmatch hfunction with ⟨π, h, hat, huser, hname⟩
  exact absurd hname (hfree h hat.mem_symbols huser)

/-- A match renames a symbol that has the name of a user function of the pattern, to what is captured
under the name. -/
theorem function?_rename_of_match (hmatch : pattern.matchAgainst options subject = .ok σ)
    {f : Symbol} (huser : ∃ h ∈ pattern.symbols, h.isUser = true ∧ h.name = f.name) :
    σ.function? f.name = some (σ.rename f) := by
  have hsome := (isSome_function?_iff_of_match hmatch).mpr huser
  rcases Option.isSome_iff_exists.mp hsome with ⟨captured, hfunction⟩
  rw [Subst.rename, hfunction, Option.getD_some]

/-- Weaving keeps every application of the template in its place, with its span and its number of
arguments. It keeps the symbol too, be it an operator or a call, unless the pattern applies a user
function of the same name; then it puts there what is captured under the name, which is a symbol of
the subject that such a function faces. -/
theorem instance_renames_by_name (hmatch : pattern.matchAgainst options subject = .ok σ)
    (template : Expr) :
    ∃ woven, σ.instantiate (.expr template) = .ok (.expr woven) ∧
      ∀ π span f args, template.at? π = some (.apply span f args) →
        ∃ g args', woven.at? π = some (.apply span g args') ∧ args'.length = args.length ∧
          ((∀ h ∈ pattern.symbols, h.isUser = true → h.name ≠ f.name) → g = f) ∧
          ((∃ h ∈ pattern.symbols, h.isUser = true ∧ h.name = f.name) →
            σ.function? f.name = some g ∧
              ∃ π' h, pattern.SymbolsAt subject π' h g ∧ h.isUser = true ∧ h.name = f.name) := by
  refine ⟨σ.scopedExpr template, σ.instantiate_expr template, ?_⟩
  intro π span f args hnode
  rcases σ.exists_at?_scopedExpr_apply hnode with ⟨args', hat, hlength⟩
  refine ⟨σ.rename f, args', hat, hlength, rename_eq_self_of_match hmatch, ?_⟩
  intro huser
  have hfunction := function?_rename_of_match hmatch huser
  exact ⟨hfunction, symbolsAt_of_function? hmatch hfunction⟩

/-- `name(x)`, a call of a user function. -/
def userCall (name : String) : Expr :=
  .apply .synthetic (.call name (some ⟨9⟩)) [.ident .synthetic ⟨"x", some ⟨1⟩⟩]

/-- `m[i]` for the given index. -/
def readAt (i : Ident) : Expr :=
  .apply .synthetic .mapSelect [.ident .synthetic ⟨"m", some ⟨2⟩⟩, .ident .synthetic i]

/-- `forall x :: p(x) == m[x]` after `p(x)` has matched `-5`: the call has become a negation and the
read is left alone, under a quantifier that hides `x`. -/
theorem instance_renames_by_name_negation :
    ∃ σ woven args args',
      (userCall "p").matchAgainst {} (.apply .synthetic (.unary .neg) [.literal .synthetic (.int 5)])
        = .ok σ ∧
      σ.instantiate (.expr (.quantified .synthetic .forall [⟨"x", some ⟨1⟩⟩]
        (.apply .synthetic (.binary .eq) [userCall "p", readAt ⟨"x", some ⟨1⟩⟩]))) =
          .ok (.expr woven) ∧
      woven.at? [0, 0] = some (.apply .synthetic (.unary .neg) args) ∧
      woven.at? [0, 1] = some (.apply .synthetic .mapSelect args') := by
  have hmatch : (userCall "p").matchAgainst {}
      (.apply .synthetic (.unary .neg) [.literal .synthetic (.int 5)]) = .ok _ := rfl
  rcases instance_renames_by_name hmatch (.quantified .synthetic .forall [⟨"x", some ⟨1⟩⟩]
    (.apply .synthetic (.binary .eq) [userCall "p", readAt ⟨"x", some ⟨1⟩⟩])) with
    ⟨woven, hwoven, hkept⟩
  rcases hkept [0, 0] _ _ _ rfl with ⟨g, args, hcall, -, -, hcaptured⟩
  rcases hkept [0, 1] _ _ _ rfl with ⟨g', args', hread, -, hfree, -⟩
  have hg : some (.unary .neg) = some g := (hcaptured (by decide)).1
  rw [Option.some.injEq] at hg
  rw [← hg] at hcall
  rw [hfree (by decide)] at hread
  exact ⟨_, woven, args, args', hmatch, hwoven, hcall, hread⟩

/-- Not every operator survives weaving: `m[i]` becomes the call `f(m, i)` after a user function named
like the reading of maps has matched `f`. -/
theorem not_forall_operator_kept :
    ¬ ∀ (options : Options) (pattern subject template woven : Expr) (σ : Subst) (π : Path)
      (span : Span) (f : Symbol) (args : List Expr),
      pattern.matchAgainst options subject = .ok σ →
      σ.instantiate (.expr template) = .ok (.expr woven) →
      template.at? π = some (.apply span f args) → f.isCall = false →
        ∃ args', woven.at? π = some (.apply span f args') := by
  intro hall
  have hkept := hall {} (userCall "MapSelect")
    (.apply .synthetic (.call "f" (some ⟨8⟩)) [.ident .synthetic ⟨"a", some ⟨7⟩⟩])
    (readAt ⟨"i", some ⟨3⟩⟩) _ _ [] _ _ _ rfl rfl rfl rfl
  rcases hkept with ⟨args', hat⟩
  cases hat

end Expr

end Graft
