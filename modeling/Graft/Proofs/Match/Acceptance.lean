import Graft.Proofs.Match.Facing
import Graft.Proofs.Match.Trail

/-!
# Acceptance

When a pattern matches a subject, said without an order of comparison: the nodes that face each other
admit each other, what one handle captures is similar, and in strict mode a user function and any
later symbol of its name face one symbol (`exists_matchAgainst_iff`).
-/

namespace Graft

namespace Expr

variable {pattern subject : Expr} {strict : Bool}

/-! ## Pairings along paths -/

theorem mem_pairingsOf_iff {π : Path} {pairing : Pairing} :
    pairing ∈ pairingsOf (pattern.at? π) (subject.at? π) ↔
      ∃ node node', pattern.at? π = some node ∧ subject.at? π = some node' ∧
        pairing ∈ nodePairings node node' := by
  cases hpattern : pattern.at? π with
  | none => simp [pairingsOf]
  | some node =>
    cases hsubject : subject.at? π with
    | none => simp [pairingsOf]
    | some node' => simp [pairingsOf]

/-- An aligned pattern has made a pairing at the end of some path. -/
theorem mem_pairings_align_iff (h : pattern.AlignedWith subject) {pairing : Pairing} :
    pairing ∈ (align pattern subject).pairings ↔
      ∃ π, pairing ∈ pairingsOf (pattern.at? π) (subject.at? π) := by
  rw [pairings_align_of pattern subject ((mismatch?_align_eq_none_iff pattern subject).mpr h),
    List.mem_flatMap]
  refine ⟨?_, ?_⟩
  · rintro ⟨π, -, hmem⟩
    exact ⟨π, hmem⟩
  · rintro ⟨π, hmem⟩
    rcases mem_pairingsOf_iff.mp hmem with ⟨node, -, hnode, -, -⟩
    exact ⟨π, (mem_paths_iff pattern π).mpr (Option.isSome_of_mem hnode), hmem⟩

theorem symbols_mem_pairingsOf_iff {π : Path} {symbol symbol' : Symbol} :
    .symbols symbol symbol' ∈ pairingsOf (pattern.at? π) (subject.at? π) ↔
      pattern.SymbolsAt subject π symbol symbol' := by
  rw [mem_pairingsOf_iff]
  refine ⟨?_, ?_⟩
  · rintro ⟨node, node', hnode, hnode', hmem⟩
    -- only two applications set symbols against each other
    cases node with
    | ident span wildcard =>
      simp only [nodePairings, Trail.capture] at hmem
      split at hmem
      · cases hmem
      · cases List.mem_singleton.mp hmem
    | literal span value => cases hmem
    | quantified span quantifier binders body =>
      cases node' with
      | quantified span' quantifier' binders' body' =>
        rcases Trail.mem_pairings_binders_iff.mp hmem with ⟨_, _, _, _, -, -, -, heq⟩
        cases heq
      | _ => cases hmem
    | apply span f args =>
      cases node' with
      | apply span' f' args' =>
        cases List.mem_singleton.mp hmem
        exact ⟨span, args, span', args', hnode, hnode'⟩
      | _ => cases hmem
  · rintro ⟨span, args, span', args', hpattern, hsubject⟩
    exact ⟨_, _, hpattern, hsubject, List.mem_singleton.mpr rfl⟩

theorem capture_mem_pairingsOf {π : Path} {handle : Handle} {name : String} {expr : Expr}
    (h : .capture handle name expr ∈ pairingsOf (pattern.at? π) (subject.at? π)) :
    pattern.Captures subject handle expr := by
  rcases mem_pairingsOf_iff.mp h with ⟨node, node', hnode, hnode', hmem⟩
  cases node with
  | ident span wildcard =>
    simp only [nodePairings, Trail.capture] at hmem
    split at hmem
    · cases hmem
    · rename_i hdecl
      cases List.mem_singleton.mp hmem
      exact .wildcard hnode hdecl hnode'
  | literal span value => cases hmem
  | apply span f args =>
    cases node' with
    | apply span' f' args' => cases List.mem_singleton.mp hmem
    | _ => cases hmem
  | quantified span quantifier binders body =>
    cases node' with
    | quantified span' quantifier' binders' body' =>
      rcases Trail.mem_pairings_binders_iff.mp hmem with
        ⟨i, binder, binder', _, hbinder, hbinder', hdecl, heq⟩
      cases heq
      exact .binder hnode hnode' hbinder hdecl hbinder'
    | _ => cases hmem

theorem Captures.exists_mem_pairings (h : pattern.AlignedWith subject) {handle : Handle}
    {expr : Expr} (hcaptures : pattern.Captures subject handle expr) :
    ∃ name, .capture handle name expr ∈ (align pattern subject).pairings := by
  cases hcaptures with
  | @wildcard π span id _ hpattern hdecl hsubject =>
    refine ⟨id.name, (mem_pairings_align_iff h).mpr ⟨π, mem_pairingsOf_iff.mpr
      ⟨_, _, hpattern, hsubject, ?_⟩⟩⟩
    simp only [nodePairings, Trail.capture, hdecl]
    exact List.mem_singleton.mpr rfl
  | @binder π span span' _ _ binders binders' _ _ i binder binder' hpattern hsubject hbinder
      hdecl hbinder' =>
    exact ⟨binder.name, (mem_pairings_align_iff h).mpr ⟨π, mem_pairingsOf_iff.mpr
      ⟨_, _, hpattern, hsubject, Trail.mem_pairings_binders_iff.mpr
        ⟨i, binder, binder', handle, hbinder, hbinder', hdecl, rfl⟩⟩⟩⟩

/-! ## Earlier and later pairings -/

/-- In an ordered list that is related pairwise, a smaller element is related to a greater one. -/
theorem rel_of_lt {R : Path → Path → Prop} {paths : List Path} (hsorted : paths.Pairwise (· < ·))
    (hrel : paths.Pairwise R) {π π' : Path} (hπ : π ∈ paths) (hπ' : π' ∈ paths) (hlt : π < π') :
    R π π' := by
  have hself : ∀ π ∈ paths, π < π → R π π := fun π _ hlt => absurd hlt (List.lt_irrefl π)
  -- the list is ordered, so that of two of its elements the smaller one stands first
  have hearlier : paths.Pairwise fun π π' => π < π' → R π π' :=
    hrel.imp (S := fun π π' => π < π' → R π π') fun hR _ => hR
  have hlater : paths.Pairwise (flip fun π π' => π < π' → R π π') :=
    hsorted.imp fun hlt hgt => absurd (List.lt_trans hlt hgt) (List.lt_irrefl _)
  exact List.Pairwise.forall_of_forall_of_flip hself hearlier hlater hπ hπ' hlt

/-- Compatibility of an aligned pattern's pairings, said about the paths they belong to. -/
theorem pairwise_compatible_iff (h : pattern.AlignedWith subject) :
    (align pattern subject).pairings.Pairwise (Pairing.Compatible strict) ↔
      (∀ handle expr expr', pattern.Captures subject handle expr →
        pattern.Captures subject handle expr' → expr.similar expr' = true) ∧
      (strict = true → ∀ π π' f f' g g', π < π' → pattern.SymbolsAt subject π f g →
        pattern.SymbolsAt subject π' f' g' → f.isUser = true → f.name = f'.name → g = g') := by
  refine ⟨?_, ?_⟩
  · intro hpairwise
    refine ⟨?_, ?_⟩
    · intro handle expr expr' hexpr hexpr'
      rcases hexpr.exists_mem_pairings h with ⟨name, hmem⟩
      rcases hexpr'.exists_mem_pairings h with ⟨name', hmem'⟩
      exact Subst.similar_of_compatible hpairwise hmem hmem'
    · intro hstrict π π' f f' g g' hlt hsymbols hsymbols'
      have hend := (mismatch?_align_eq_none_iff pattern subject).mpr h
      rw [pairings_align_of pattern subject hend, List.pairwise_flatMap] at hpairwise
      have hpath : ∀ {π f g}, pattern.SymbolsAt subject π f g → π ∈ pattern.paths := by
        rintro π f g ⟨_, _, _, _, hpattern, -⟩
        exact (mem_paths_iff pattern π).mpr (Option.isSome_of_mem hpattern)
      exact rel_of_lt (paths_pairwise_lt pattern) hpairwise.2 (hpath hsymbols) (hpath hsymbols')
        hlt _ (symbols_mem_pairingsOf_iff.mpr hsymbols) _
        (symbols_mem_pairingsOf_iff.mpr hsymbols') hstrict
  · rintro ⟨hcaptures, hsymbols⟩
    have hend := (mismatch?_align_eq_none_iff pattern subject).mpr h
    -- the pairings of one path need no order: at most one of them is a pair of symbols
    have hcompatible : ∀ π π' p q, π < π' ∨ π = π' →
        p ∈ pairingsOf (pattern.at? π) (subject.at? π) →
        q ∈ pairingsOf (pattern.at? π') (subject.at? π') → p.Compatible strict q := by
      intro π π' p q hle hp hq
      match p, q with
      | .capture handle name expr, .capture handle' name' expr' =>
        rintro rfl
        exact hcaptures handle expr expr' (capture_mem_pairingsOf hp) (capture_mem_pairingsOf hq)
      | .symbols f g, .symbols f' g' =>
        intro hstrict huser hname
        have hf := symbols_mem_pairingsOf_iff.mp hp
        have hf' := symbols_mem_pairingsOf_iff.mp hq
        rcases hle with hlt | rfl
        · exact hsymbols hstrict π π' f f' g g' hlt hf hf' huser hname
        · rcases hf with ⟨_, _, _, _, -, hg⟩
          rcases hf' with ⟨_, _, _, _, -, hg'⟩
          rw [hg] at hg'
          cases hg'
          rfl
      | .capture _ _ _, .symbols _ _ => exact trivial
      | .symbols _ _, .capture _ _ _ => exact trivial
    rw [pairings_align_of pattern subject hend, List.pairwise_flatMap]
    refine ⟨?_, (paths_pairwise_lt pattern).imp ?_⟩
    · intro π _
      exact List.pairwise_of_forall_mem_list fun p hp q hq =>
        hcompatible π π p q (.inr rfl) hp hq
    · intro π π' hlt p hp q hq
      exact hcompatible π π' p q (.inl hlt) hp hq

/-! ## The condition -/

theorem exists_match_iff_compatible {options : Options} :
    (∃ σ, pattern.matchAgainst options subject = .ok σ) ↔
      pattern.AlignedWith subject ∧
        (align pattern subject).pairings.Pairwise
          (Pairing.Compatible options.strictFunctionCapture) := by
  simp only [matchAgainst_eq_ok_iff, mismatch?_align_eq_none_iff, exists_and_left,
    Subst.exists_recordAll_iff]

/-- A pattern matches a subject exactly when the two are aligned, everything that faces one handle is
similar, and, in strict mode only, a user function and every later symbol of its name face the same
symbol. -/
theorem exists_matchAgainst_iff (options : Options) (pattern subject : Expr) :
    (∃ σ, pattern.matchAgainst options subject = .ok σ) ↔
      pattern.AlignedWith subject ∧
      (∀ handle expr expr', pattern.Captures subject handle expr →
        pattern.Captures subject handle expr' → expr.similar expr' = true) ∧
      (options.strictFunctionCapture = true → ∀ π π' f f' g g', π < π' →
        pattern.SymbolsAt subject π f g → pattern.SymbolsAt subject π' f' g' →
        f.isUser = true → f.name = f'.name → g = g') := by
  rw [exists_match_iff_compatible]
  exact and_congr_right fun haligned => pairwise_compatible_iff haligned

end Expr

end Graft
