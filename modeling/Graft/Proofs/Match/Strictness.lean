import Graft.Proofs.Match.Captured

/-!
# Strict function capture

What the strict switch adds to matching. It makes no match possible and changes none that it
permits: where the strict run departs from the lax one, it stops at a function that faces two symbols
(`strict_match_refines`). What a strict match guarantees in return is said by name: a user function
and every later symbol of its name face one symbol. An unresolved call is not recorded, so one that
stands before the first resolved call of its name escapes the check (`calls_agree_of_match`).
-/

namespace Graft

/-! ## A check that only removes -/

/-- The outcome of a strict run beside that of the lax one: it is the same, or it complains about a
function among the pairings. -/
def Tightens {α : Type} (pairings : List Pairing) (strict lax : Except Mismatch α) : Prop :=
  strict = lax ∨
    ∃ f g, .symbols f g ∈ pairings ∧ strict = .error (.inconsistentFunction f.name)

theorem Tightens.bind {α β : Type} {pairings : List Pairing} {strict lax : Except Mismatch α}
    {next next' : α → Except Mismatch β} (h : Tightens pairings strict lax)
    (hnext : ∀ a, Tightens pairings (next a) (next' a)) :
    Tightens pairings (strict >>= next) (lax >>= next') := by
  rcases h with heq | ⟨f, g, hmem, hstop⟩
  · rw [heq]
    cases lax with
    | error mismatch => exact .inl rfl
    | ok a => exact hnext a
  · -- a complaint ends the strict run, whatever would have come next
    rw [hstop]
    exact .inr ⟨f, g, hmem, rfl⟩

namespace Subst

theorem record_tightens (σ : Subst) {pairings : List Pairing} {pairing : Pairing}
    (hmem : pairing ∈ pairings) :
    Tightens pairings (σ.record true pairing) (σ.record false pairing) := by
  cases pairing with
  | capture handle name subject => exact .inl rfl
  | symbols f g =>
    simp only [record]
    cases σ.function? f.name with
    | none => exact .inl rfl
    | some first =>
      by_cases hsame : first = g
      · exact .inl (by simp [hsame])
      · exact .inr ⟨f, g, hmem, by simp [hsame]⟩

/-- Both runs record from one substitution as long as the strict one goes on. -/
theorem recordAll_tightens {pairings : List Pairing} (rest : List Pairing) :
    rest ⊆ pairings → ∀ σ : Subst,
      Tightens pairings (σ.recordAll true rest) (σ.recordAll false rest) := by
  induction rest with
  | nil => intro _ σ; exact .inl rfl
  | cons pairing rest ih =>
    intro hsub σ
    have hfirst := σ.record_tightens (hsub List.mem_cons_self)
    have hrest := ih fun p hp => hsub (List.mem_cons_of_mem _ hp)
    exact hfirst.bind hrest

end Subst

theorem Trail.solve_tightens (σ : Subst) (trail : Trail) :
    Tightens trail.pairings (trail.solve true σ) (trail.solve false σ) := by
  have hrecord := Subst.recordAll_tightens trail.pairings (List.Subset.refl _) σ
  -- the trail's own mismatch does not depend on the mode
  exact hrecord.bind fun τ => .inl rfl

namespace Expr

variable {σ : Subst} {options : Options} {pattern subject : Expr}

theorem matchAgainst_tightens {strict lax : Options}
    (hstrict : strict.strictFunctionCapture = true) (hlax : lax.strictFunctionCapture = false)
    (pattern subject : Expr) :
    Tightens (align pattern subject).pairings (pattern.matchAgainst strict subject)
      (pattern.matchAgainst lax subject) := by
  rw [matchAgainst_eq_solve, matchAgainst_eq_solve, hstrict, hlax]
  exact Trail.solve_tightens .empty _

/-- Strict capture only removes matches. A strict match is a lax one with the same substitution; what
it refuses of the lax matches, it refuses because of a function of the pattern. The comparison of
parameter types has no say in either. -/
theorem strict_match_refines {strict lax : Options}
    (hstrict : strict.strictFunctionCapture = true) (hlax : lax.strictFunctionCapture = false)
    (pattern subject : Expr) :
    (∀ σ, pattern.matchAgainst strict subject = .ok σ →
      pattern.matchAgainst lax subject = .ok σ) ∧
    (∀ σ mismatch, pattern.matchAgainst lax subject = .ok σ →
      pattern.matchAgainst strict subject = .error mismatch →
        ∃ f ∈ pattern.symbols, mismatch = .inconsistentFunction f.name) ∧
    ∀ options types, pattern.matchAgainst { options with compareParamTypes := types } subject =
      pattern.matchAgainst options subject := by
  have htightens := matchAgainst_tightens hstrict hlax pattern subject
  refine ⟨?_, ?_, fun options types => rfl⟩
  · intro σ hmatch
    rcases htightens with heq | ⟨f, g, -, hstop⟩
    · rw [← heq, hmatch]
    · rw [hmatch] at hstop
      cases hstop
  · intro σ mismatch hmatch hmismatch
    rcases htightens with heq | ⟨f, g, hmem, hstop⟩
    · rw [hmatch, hmismatch] at heq
      cases heq
    · rw [hmismatch, Except.error.injEq] at hstop
      -- the lax match is aligned, so the pairing stands at an application of the pattern
      have haligned := alignedWith_of_match hmatch
      rcases (mem_pairings_align_iff haligned).mp hmem with ⟨π, hπ⟩
      have hat := symbols_mem_pairingsOf_iff.mp hπ
      exact ⟨f, hat.mem_symbols, hstop⟩

/-- `p(x) && p(y)`, where the two calls of `p` need not be resolved alike. -/
def twoCalls (first second : Option Handle) : Expr :=
  .apply .synthetic (.binary .and) [
    .apply .synthetic (.call "p" first) [.ident .synthetic ⟨"x", some ⟨1⟩⟩],
    .apply .synthetic (.call "p" second) [.ident .synthetic ⟨"y", some ⟨2⟩⟩]]

/-- `f(a) && g(b)` for the given symbols. -/
def twoApplications (f g : Symbol) : Expr :=
  .apply .synthetic (.binary .and) [
    .apply .synthetic f [.ident .synthetic ⟨"a", some ⟨7⟩⟩],
    .apply .synthetic g [.ident .synthetic ⟨"b", some ⟨6⟩⟩]]

/-- Two negations match two calls of `p` in both modes and bind it alike. A negation and a call match
them in lax mode only, and the strict run complains about `p`, whether or not parameter types are
compared. -/
theorem strict_match_refines_two_calls :
    (∃ σ, (twoCalls (some ⟨9⟩) (some ⟨9⟩)).matchAgainst ⟨true, false⟩
        (twoApplications (.unary .neg) (.unary .neg)) = .ok σ ∧
      (twoCalls (some ⟨9⟩) (some ⟨9⟩)).matchAgainst ⟨false, true⟩
        (twoApplications (.unary .neg) (.unary .neg)) = .ok σ) ∧
    ∃ σ mismatch, (twoCalls (some ⟨9⟩) (some ⟨9⟩)).matchAgainst ⟨false, true⟩
        (twoApplications (.unary .neg) (.call "q" (some ⟨8⟩))) = .ok σ ∧
      (twoCalls (some ⟨9⟩) (some ⟨9⟩)).matchAgainst ⟨true, false⟩
        (twoApplications (.unary .neg) (.call "q" (some ⟨8⟩))) = .error mismatch ∧
      ∃ f ∈ (twoCalls (some ⟨9⟩) (some ⟨9⟩)).symbols, mismatch = .inconsistentFunction f.name := by
  have hstrict : (⟨true, false⟩ : Options).strictFunctionCapture = true := rfl
  have hlax : (⟨false, true⟩ : Options).strictFunctionCapture = false := rfl
  have hkept := (strict_match_refines hstrict hlax (twoCalls (some ⟨9⟩) (some ⟨9⟩))
    (twoApplications (.unary .neg) (.unary .neg))).1
  have hremoved := (strict_match_refines hstrict hlax (twoCalls (some ⟨9⟩) (some ⟨9⟩))
    (twoApplications (.unary .neg) (.call "q" (some ⟨8⟩)))).2.1
  exact ⟨⟨_, rfl, hkept _ rfl⟩, _, _, rfl, rfl, hremoved _ _ rfl rfl⟩

/-! ## What a strict match guarantees -/

/-- A symbol that is not a user function faces itself. -/
theorem SymbolsAt.eq_self (haligned : pattern.AlignedWith subject) {π : Path} {f g : Symbol}
    (hat : pattern.SymbolsAt subject π f g) (huser : f.isUser = false) : f = g := by
  rcases hat.eq_or_isUser haligned with heq | htrue
  · exact heq
  · rw [huser] at htrue
    cases htrue

section Strict

variable (hmatch : pattern.matchAgainst options subject = .ok σ)
  (hstrict : options.strictFunctionCapture = true)

include hmatch hstrict

/-- A user function and a later symbol of its name face one symbol. -/
theorem SymbolsAt.eq_of_lt {π π' : Path} {f f' g g' : Symbol} (hlt : π < π')
    (hat : pattern.SymbolsAt subject π f g) (hat' : pattern.SymbolsAt subject π' f' g')
    (huser : f.isUser = true) (hname : f.name = f'.name) : g = g' := by
  have haligned := alignedWith_of_match hmatch
  have hcompatible := (exists_match_iff_compatible.mp ⟨σ, hmatch⟩).2
  have hlater := ((pairwise_compatible_iff haligned).mp hcompatible).2 hstrict
  exact hlater π π' f f' g g' hlt hat hat' huser hname

/-- User functions of one name face one symbol, in whatever order they stand. -/
theorem SymbolsAt.eq_of_isUser {π π' : Path} {f f' g g' : Symbol}
    (hat : pattern.SymbolsAt subject π f g) (hat' : pattern.SymbolsAt subject π' f' g')
    (huser : f.isUser = true) (huser' : f'.isUser = true) (hname : f.name = f'.name) :
    g = g' := by
  rcases function?_of_symbolsAt hmatch hat huser with ⟨first, hfirst, heq⟩
  rcases function?_of_symbolsAt hmatch hat' huser' with ⟨first', hfirst', heq'⟩
  rw [hname, hfirst', Option.some.injEq] at hfirst
  rw [← heq hstrict, ← heq' hstrict, hfirst]

/-- One symbol faces one symbol. -/
theorem SymbolsAt.eq_of_eq {π π' : Path} {f g g' : Symbol}
    (hat : pattern.SymbolsAt subject π f g) (hat' : pattern.SymbolsAt subject π' f g') :
    g = g' := by
  cases huser : f.isUser with
  | true => exact hat.eq_of_isUser hmatch hstrict hat' huser huser rfl
  | false =>
    have haligned := alignedWith_of_match hmatch
    rw [← hat.eq_self haligned huser, ← hat'.eq_self haligned huser]

/-- Calls of one name that are resolved alike face one symbol. -/
theorem SymbolsAt.eq_of_isCall {π π' : Path} {f f' g g' : Symbol}
    (hat : pattern.SymbolsAt subject π f g) (hat' : pattern.SymbolsAt subject π' f' g')
    (hcall : f.isCall = true) (hcall' : f'.isCall = true) (hname : f.name = f'.name)
    (halike : f.isUser = f'.isUser) : g = g' := by
  cases huser : f.isUser with
  | true =>
    rw [huser] at halike
    exact hat.eq_of_isUser hmatch hstrict hat' huser halike.symm hname
  | false =>
    -- an unresolved call is nothing but its name
    rw [huser] at halike
    have hsame : f = f' := by
      rw [Symbol.eq_call_none hcall huser, Symbol.eq_call_none hcall' halike.symm, hname]
    rw [hsame] at hat
    exact hat.eq_of_eq hmatch hstrict hat'

/-- A call and a later one of its name face one symbol, unless only the later one is resolved. -/
theorem SymbolsAt.eq_of_isCall_of_lt {π π' : Path} {f f' g g' : Symbol} (hlt : π < π')
    (hat : pattern.SymbolsAt subject π f g) (hat' : pattern.SymbolsAt subject π' f' g')
    (hcall : f.isCall = true) (hcall' : f'.isCall = true) (hname : f.name = f'.name)
    (hresolved : f'.isUser = true → f.isUser = true) : g = g' := by
  by_cases huser : f.isUser = true
  · exact hat.eq_of_lt hmatch hstrict hlt hat' huser hname
  · have huser' : ¬ f'.isUser = true := fun htrue => huser (hresolved htrue)
    rw [Bool.not_eq_true] at huser huser'
    exact hat.eq_of_isCall hmatch hstrict hat' hcall hcall' hname (huser.trans huser'.symm)

/-- Where an unresolved call is what is captured under its name, every call of the name faces it. -/
theorem SymbolsAt.eq_call_none {π : Path} {f g : Symbol} (hat : pattern.SymbolsAt subject π f g)
    (hcall : f.isCall = true) (hcaptured : σ.function? f.name = some (.call f.name none)) :
    g = .call f.name none := by
  cases huser : f.isUser with
  | true =>
    rcases function?_of_symbolsAt hmatch hat huser with ⟨first, hfirst, heq⟩
    rw [hcaptured, Option.some.injEq] at hfirst
    rw [← heq hstrict, hfirst]
  | false =>
    rw [← hat.eq_self (alignedWith_of_match hmatch) huser]
    exact Symbol.eq_call_none hcall huser

/-- If all calls of a name agree and some of them are resolved and some not, then what is captured
under the name is the unresolved call. -/
theorem function?_of_callsAgree {name : String} (hagree : pattern.CallsAgree subject name)
    {f f' : Symbol} (hf : f ∈ pattern.symbols) (hf' : f' ∈ pattern.symbols)
    (huser : f.isUser = true) (hcall' : f'.isCall = true) (huser' : f'.isUser = false)
    (hname : f.name = name) (hname' : f'.name = name) :
    σ.function? name = some (.call name none) := by
  have haligned := alignedWith_of_match hmatch
  rcases exists_symbolsAt haligned hf with ⟨π, g, hat⟩
  rcases exists_symbolsAt haligned hf' with ⟨π', g', hat'⟩
  have hcall := Symbol.isCall_of_isUser huser
  have hg : g = f' := by
    rw [hat'.eq_self haligned huser']
    exact hagree π π' f f' g g' hat hat' hcall hcall' hname hname'
  rcases function?_of_symbolsAt hmatch hat huser with ⟨first, hfirst, heq⟩
  rw [← hname, hfirst, heq hstrict, hg, Symbol.eq_call_none hcall' huser', hname, hname']

/-- If all calls of a name agree, then they are resolved alike, or else the unresolved call is what is
captured under the name. -/
theorem isUser_eq_of_callsAgree {name : String} (hagree : pattern.CallsAgree subject name)
    (hcaptured : σ.function? name ≠ some (.call name none)) {f f' : Symbol}
    (hf : f ∈ pattern.symbols) (hf' : f' ∈ pattern.symbols) (hcall : f.isCall = true)
    (hcall' : f'.isCall = true) (hname : f.name = name) (hname' : f'.name = name) :
    f.isUser = f'.isUser := by
  cases huser : f.isUser with
  | true =>
    cases huser' : f'.isUser with
    | true => rfl
    | false =>
      have hmixed := function?_of_callsAgree hmatch hstrict hagree hf hf' huser hcall' huser'
        hname hname'
      exact absurd hmixed hcaptured
  | false =>
    cases huser' : f'.isUser with
    | true =>
      have hmixed := function?_of_callsAgree hmatch hstrict hagree hf' hf huser' hcall huser
        hname' hname
      exact absurd hmixed hcaptured
    | false => rfl

/-- In strict mode two calls of one name face one symbol, unless the earlier one is unresolved and the
later one resolved: only resolved calls are recorded, so nothing is left of the earlier call to check
the later one against. All calls of a name face one symbol exactly when they are resolved alike, or
when what is captured under the name is the unresolved call itself. -/
theorem calls_agree_of_match :
    (∀ π π' f f' g g', π < π' → pattern.SymbolsAt subject π f g →
      pattern.SymbolsAt subject π' f' g' → f.isCall = true → f'.isCall = true →
      f.name = f'.name → (f'.isUser = true → f.isUser = true) → g = g') ∧
    ∀ name, pattern.CallsAgree subject name ↔
      (∀ f ∈ pattern.symbols, ∀ f' ∈ pattern.symbols, f.isCall = true → f'.isCall = true →
        f.name = name → f'.name = name → f.isUser = f'.isUser) ∨
      σ.function? name = some (.call name none) := by
  refine ⟨?_, ?_⟩
  · intro π π' f f' g g' hlt hat hat' hcall hcall' hname hresolved
    exact hat.eq_of_isCall_of_lt hmatch hstrict hlt hat' hcall hcall' hname hresolved
  · intro name
    refine ⟨?_, ?_⟩
    · intro hagree
      by_cases hcaptured : σ.function? name = some (.call name none)
      · exact .inr hcaptured
      · refine .inl ?_
        intro f hf f' hf' hcall hcall' hname hname'
        exact isUser_eq_of_callsAgree hmatch hstrict hagree hcaptured hf hf' hcall hcall' hname
          hname'
    · intro hcases π π' f f' g g' hat hat' hcall hcall' hname hname'
      rcases hcases with halike | hcaptured
      · have hsame := halike f hat.mem_symbols f' hat'.mem_symbols hcall hcall' hname hname'
        exact hat.eq_of_isCall hmatch hstrict hat' hcall hcall' (hname.trans hname'.symm) hsame
      · have hg := hat.eq_call_none hmatch hstrict hcall (by rw [hname]; exact hcaptured)
        have hg' := hat'.eq_call_none hmatch hstrict hcall' (by rw [hname']; exact hcaptured)
        rw [hg, hg', hname, hname']

end Strict

/-- A resolved call before an unresolved one: both face the unresolved call, which is what is captured
under their name. -/
theorem calls_agree_of_match_resolved_first :
    ∃ σ, (twoCalls (some ⟨9⟩) none).matchAgainst {}
        (twoApplications (.call "p" none) (.call "p" none)) = .ok σ ∧
      σ.function? "p" = some (.call "p" none) ∧
      (twoCalls (some ⟨9⟩) none).CallsAgree
        (twoApplications (.call "p" none) (.call "p" none)) "p" := by
  have hmatch : (twoCalls (some ⟨9⟩) none).matchAgainst {}
      (twoApplications (.call "p" none) (.call "p" none)) = .ok _ := rfl
  have hagree := (calls_agree_of_match hmatch rfl).2 "p"
  exact ⟨_, hmatch, rfl, hagree.mpr (.inr rfl)⟩

/-- Strict capture does not make all calls of a name agree: in `p(x) && p(y)` with only the second
call resolved, the first faces itself and the second another function. -/
theorem not_forall_calls_agree :
    ¬ ∀ (options : Options) (pattern subject : Expr) (σ : Subst),
      options.strictFunctionCapture = true → pattern.matchAgainst options subject = .ok σ →
        ∀ name, pattern.CallsAgree subject name := by
  intro hall
  have hagree := hall {} (twoCalls none (some ⟨9⟩))
    (twoApplications (.call "p" none) (.call "q" (some ⟨8⟩))) _ rfl rfl "p"
  have hsame := hagree [0] [1] (.call "p" none) (.call "p" (some ⟨9⟩)) (.call "p" none)
    (.call "q" (some ⟨8⟩)) ⟨_, _, _, _, rfl, rfl⟩ ⟨_, _, _, _, rfl, rfl⟩ rfl rfl rfl rfl
  exact absurd hsame (by decide)

end Expr

end Graft
