import Graft.Proofs.Match.Captured

/-!
# First captures

Of everything that one handle faces a match keeps what the first place of the handle faces, and of
everything that the user functions of one name face it keeps what the first application faces
(`match_binds_first`). Nothing else is kept, and what is kept is never replaced.
-/

namespace Graft

/-! ## First elements of lists -/

section First

variable {α β γ : Type} {b : β}

/-- What is found is what the first position has that has anything. -/
theorem findSome?_eq_some_iff_getElem? {f : α → Option β} (xs : List α) :
    xs.findSome? f = some b ↔
      ∃ (i : Nat) (x : α), xs[i]? = some x ∧ f x = some b ∧
        ∀ j < i, ∀ y, xs[j]? = some y → f y = none := by
  rw [List.findSome?_eq_some_iff]
  constructor
  · intro h
    obtain ⟨before, x, after, rfl, hfound, hnone⟩ := h
    refine ⟨before.length, x, by simp, hfound, ?_⟩
    intro j hj y hy
    rw [List.getElem?_append_left hj] at hy
    exact hnone y (List.mem_of_getElem? hy)
  · intro h
    obtain ⟨i, x, hx, hfound, hnone⟩ := h
    obtain ⟨hi, rfl⟩ := List.getElem?_eq_some_iff.mp hx
    refine ⟨xs.take i, xs[i], xs.drop (i + 1), ?_, hfound, ?_⟩
    · rw [← List.drop_eq_getElem_cons hi, List.take_append_drop]
    · intro y hy
      obtain ⟨j, hj⟩ := List.mem_iff_getElem?.mp hy
      by_cases hlt : j < i
      · rw [List.getElem?_take_of_lt hlt] at hj
        exact hnone j hlt y hj
      · rw [List.getElem?_take_eq_none (Nat.not_lt.mp hlt)] at hj
        cases hj

/-- Along paths in their order, what is found is what the smallest path has that has anything. -/
theorem findSome?_eq_some_iff_of_sorted {f : Path → Option β} {paths : List Path}
    (hsorted : paths.Pairwise (· < ·)) :
    paths.findSome? f = some b ↔
      ∃ π ∈ paths, f π = some b ∧ ∀ ρ ∈ paths, ρ < π → f ρ = none := by
  rw [List.findSome?_eq_some_iff]
  constructor
  · intro h
    obtain ⟨before, π, after, rfl, hfound, hnone⟩ := h
    obtain ⟨-, hafter, -⟩ := List.pairwise_append.mp hsorted
    refine ⟨π, by simp, hfound, ?_⟩
    intro ρ hρ hsmaller
    -- a smaller path cannot stand later, nor in the same position
    rcases List.mem_append.mp hρ with hbefore | hrest
    · exact hnone ρ hbefore
    · rcases List.mem_cons.mp hrest with rfl | hlater
      · exact absurd hsmaller (List.lt_irrefl ρ)
      · exact absurd hsmaller (List.lt_asymm (List.rel_of_pairwise_cons hafter hlater))
  · intro h
    obtain ⟨π, hmem, hfound, hnone⟩ := h
    obtain ⟨before, after, rfl⟩ := List.append_of_mem hmem
    obtain ⟨-, -, hbetween⟩ := List.pairwise_append.mp hsorted
    refine ⟨before, π, after, rfl, hfound, ?_⟩
    intro ρ hρ
    exact hnone ρ (List.mem_append_left _ hρ) (hbetween ρ hρ π List.mem_cons_self)

theorem findSome?_flatMap (xs : List α) (g : α → List γ) (f : γ → Option β) :
    (xs.flatMap g).findSome? f = xs.findSome? fun x => (g x).findSome? f := by
  induction xs with
  | nil => rfl
  | cons x rest ih =>
    rw [List.flatMap_cons, List.findSome?_append, List.findSome?_cons, ih]
    cases (g x).findSome? f <;> rfl

end First

namespace Expr

variable {σ : Subst} {options : Options} {pattern subject : Expr} {handle : Handle} {π : Path}

/-! ## The captures of one node -/

theorem Admits.length_faced {node node' : Expr} (h : node.Admits node') :
    (node.faced node').length = node.own.length := by
  cases node with
  | ident span id => rfl
  | literal span value => rfl
  | apply span symbol args => rfl
  | quantified span quantifier binders body =>
    obtain ⟨span', binders', body', rfl, hlength⟩ := admits_quantified_iff.mp h
    exact (List.length_map _).trans hlength.symm

theorem bind_value?_capture (handle : Handle) (id : Ident) (expr : Expr) :
    (id.decl.map fun handle' => Pairing.capture handle' id.name expr).bind (·.value? handle) =
      if id.decl = some handle then some expr else none := by
  cases id.decl <;> simp [Pairing.value?]

/-- A node captures what its own identifiers face, one after the other. -/
theorem findSome?_nodePairings (handle : Handle) (node node' : Expr) :
    (nodePairings node node').findSome? (·.value? handle) =
      (node.own.zip (node.faced node')).findSome? fun (id, expr) =>
        if id.decl = some handle then some expr else none := by
  cases node with
  | ident span id =>
    rw [nodePairings, own, faced]
    cases hdecl : id.decl <;> simp [Trail.capture, Trail.stop, Trail.note, Pairing.value?, hdecl]
  | literal span value => rfl
  | apply span symbol args => cases node' <;> rfl
  | quantified span quantifier binders body =>
    cases node' with
    | quantified span' quantifier' binders' body' =>
      simp only [nodePairings, own, faced]
      rw [Trail.pairings_binders, ← List.head?_filterMap, List.filterMap_filterMap,
        List.head?_filterMap, List.zip_map_right, List.findSome?_map]
      simp only [bind_value?_capture]
      rfl
    | _ => simp [nodePairings, faced]

theorem occursAt_iff {expr node : Expr} (hnode : expr.at? π = some node) {i : Nat} :
    expr.OccursAt handle ⟨π, i⟩ ↔ ∃ id, node.own[i]? = some id ∧ id.decl = some handle := by
  simp [OccursAt, hnode]

theorem capturesAt_iff {node node' expr : Expr} (hnode : pattern.at? π = some node)
    (hnode' : subject.at? π = some node') {i : Nat} :
    pattern.CapturesAt subject handle ⟨π, i⟩ expr ↔ ∃ id, node.own[i]? = some id ∧
      id.decl = some handle ∧ (node.faced node')[i]? = some expr := by
  simp [CapturesAt, hnode, hnode']

/-- What a handle captures at a node, it captures at the first of its places there. -/
theorem findSome?_pairingsOf_eq_some_iff (haligned : pattern.AlignedWith subject) {expr : Expr} :
    (pairingsOf (pattern.at? π) (subject.at? π)).findSome? (·.value? handle) = some expr ↔
      ∃ i, pattern.CapturesAt subject handle ⟨π, i⟩ expr ∧
        ∀ j < i, ¬ pattern.OccursAt handle ⟨π, j⟩ := by
  cases hpattern : pattern.at? π with
  | none => simp [pairingsOf, CapturesAt, hpattern]
  | some node =>
    obtain ⟨node', hsubject, hadmits⟩ := haligned π node hpattern
    simp only [hsubject, pairingsOf, capturesAt_iff hpattern hsubject, occursAt_iff hpattern]
    rw [findSome?_nodePairings, findSome?_eq_some_iff_getElem?]
    simp only [List.getElem?_zip_eq_some, Prod.exists, Prod.forall]
    constructor
    · intro h
      obtain ⟨i, id, found, ⟨hid, hfound⟩, hcaptured, hnone⟩ := h
      rw [Option.ite_none_right_eq_some, Option.some.injEq] at hcaptured
      rw [hcaptured.2] at hfound
      refine ⟨i, ⟨id, hid, hcaptured.1, hfound⟩, ?_⟩
      intro j hj hoccurs
      obtain ⟨earlier, hearlier, hdecl⟩ := hoccurs
      -- as many things are faced as there are own identifiers
      obtain ⟨expr', hexpr'⟩ := exists_getElem?_of_length_eq hadmits.length_faced hearlier
      have hskipped := hnone j hj earlier expr' ⟨hearlier, hexpr'⟩
      rw [if_pos hdecl] at hskipped
      cases hskipped
    · intro h
      obtain ⟨i, ⟨id, hid, hdecl, hfaced⟩, hfirst⟩ := h
      refine ⟨i, id, expr, ⟨hid, hfaced⟩, if_pos hdecl, ?_⟩
      intro j hj earlier expr' hboth
      exact if_neg fun hdecl' => hfirst j hj ⟨earlier, hboth.1, hdecl'⟩

theorem findSome?_pairingsOf_eq_none_iff (haligned : pattern.AlignedWith subject) :
    (pairingsOf (pattern.at? π) (subject.at? π)).findSome? (·.value? handle) = none ↔
      ∀ i, ¬ pattern.OccursAt handle ⟨π, i⟩ := by
  cases hpattern : pattern.at? π with
  | none => simp [pairingsOf, OccursAt, hpattern]
  | some node =>
    obtain ⟨node', hsubject, hadmits⟩ := haligned π node hpattern
    simp only [hsubject, pairingsOf, occursAt_iff hpattern]
    rw [findSome?_nodePairings, List.findSome?_eq_none_iff]
    constructor
    · intro h i hoccurs
      obtain ⟨id, hid, hdecl⟩ := hoccurs
      obtain ⟨expr, hexpr⟩ := exists_getElem?_of_length_eq hadmits.length_faced hid
      have hmem : (id, expr) ∈ node.own.zip (node.faced node') :=
        List.mem_of_getElem? (List.getElem?_zip_eq_some.mpr ⟨hid, hexpr⟩)
      have hskipped : (if id.decl = some handle then some expr else none) = none := h _ hmem
      rw [if_pos hdecl] at hskipped
      cases hskipped
    · intro h pair hmem
      obtain ⟨i, hi⟩ := List.mem_iff_getElem?.mp hmem
      exact if_neg fun hdecl => h i ⟨pair.1, (List.getElem?_zip_eq_some.mp hi).1, hdecl⟩

/-- A path leads to one application on each side. -/
theorem SymbolsAt.eq_of_at {f f' g g' : Symbol} (hat : pattern.SymbolsAt subject π f g)
    (hat' : pattern.SymbolsAt subject π f' g') : g = g' := by
  obtain ⟨_, _, _, _, -, hsubject⟩ := hat
  obtain ⟨_, _, _, _, -, hsubject'⟩ := hat'
  rw [hsubject] at hsubject'
  cases hsubject'
  rfl

/-- A node captures a symbol if it applies a user function, under the name of that function. -/
theorem findSome?_function?_pairingsOf_eq_some_iff {name : String} {symbol : Symbol} :
    (pairingsOf (pattern.at? π) (subject.at? π)).findSome? (·.function? name) = some symbol ↔
      ∃ f, pattern.SymbolsAt subject π f symbol ∧ f.isUser = true ∧ f.name = name := by
  constructor
  · intro h
    obtain ⟨pairing, hmem, hpairing⟩ := List.exists_of_findSome?_eq_some h
    obtain ⟨f, rfl, huser, hname⟩ := Pairing.function?_eq_some_iff.mp hpairing
    exact ⟨f, symbols_mem_pairingsOf_iff.mp hmem, huser, hname⟩
  · intro h
    obtain ⟨f, hat, huser, hname⟩ := h
    cases hfound : (pairingsOf (pattern.at? π) (subject.at? π)).findSome? (·.function? name) with
    | none =>
      rw [List.findSome?_eq_none_iff] at hfound
      have hnone := hfound _ (symbols_mem_pairingsOf_iff.mpr hat)
      rw [Pairing.function?_eq_some_iff.mpr ⟨f, rfl, huser, hname⟩] at hnone
      cases hnone
    | some symbol' =>
      obtain ⟨pairing, hmem, hpairing⟩ := List.exists_of_findSome?_eq_some hfound
      obtain ⟨f', rfl, -, -⟩ := Pairing.function?_eq_some_iff.mp hpairing
      rw [(symbols_mem_pairingsOf_iff.mp hmem).eq_of_at hat]

theorem findSome?_function?_pairingsOf_eq_none_iff (haligned : pattern.AlignedWith subject)
    {name : String} :
    (pairingsOf (pattern.at? π) (subject.at? π)).findSome? (·.function? name) = none ↔
      ∀ span f args, pattern.at? π = some (.apply span f args) → f.isUser = true →
        f.name ≠ name := by
  constructor
  · intro h span f args hnode huser hname
    obtain ⟨node', hsubject, hadmits⟩ := haligned π _ hnode
    obtain ⟨span', g, args', rfl, -⟩ := admits_apply_iff.mp hadmits
    have hfound := findSome?_function?_pairingsOf_eq_some_iff.mpr
      ⟨f, ⟨span, args, span', args', hnode, hsubject⟩, huser, hname⟩
    rw [h] at hfound
    cases hfound
  · intro h
    cases hfound : (pairingsOf (pattern.at? π) (subject.at? π)).findSome? (·.function? name) with
    | none => rfl
    | some symbol =>
      obtain ⟨f, ⟨span, args, _, _, hnode, -⟩, huser, hname⟩ :=
        findSome?_function?_pairingsOf_eq_some_iff.mp hfound
      exact absurd hname (h span f args hnode huser)

/-! ## The first captures of a match -/

/-- Of the pairings that a match makes, the first ones stand at the smallest path. -/
theorem findSome?_pairings_align {β : Type} {b : β} (shown : Pairing → Option β)
    (hend : (align pattern subject).mismatch? = none) :
    (align pattern subject).pairings.findSome? shown = some b ↔
      ∃ π, (pairingsOf (pattern.at? π) (subject.at? π)).findSome? shown = some b ∧
        ∀ ρ < π, (pairingsOf (pattern.at? ρ) (subject.at? ρ)).findSome? shown = none := by
  have hpath : ∀ π, π ∉ pattern.paths →
      (pairingsOf (pattern.at? π) (subject.at? π)).findSome? shown = none := by
    intro π hπ
    rw [mem_paths_iff, Option.not_isSome_iff_eq_none] at hπ
    rw [hπ]
    rfl
  rw [pairings_align_of pattern subject hend, findSome?_flatMap,
    findSome?_eq_some_iff_of_sorted (paths_pairwise_lt pattern)]
  constructor
  · intro h
    obtain ⟨π, -, hfound, hnone⟩ := h
    refine ⟨π, hfound, ?_⟩
    intro ρ hlt
    by_cases hρ : ρ ∈ pattern.paths
    · exact hnone ρ hρ hlt
    · exact hpath ρ hρ
  · intro h
    obtain ⟨π, hfound, hnone⟩ := h
    by_cases hπ : π ∈ pattern.paths
    · exact ⟨π, hπ, hfound, fun ρ _ => hnone ρ⟩
    · rw [hpath π hπ] at hfound
      cases hfound

/-- A match binds a handle to what its first place faces. -/
theorem value?_eq_some_iff_of_match (hmatch : pattern.matchAgainst options subject = .ok σ)
    (handle : Handle) (expr : Expr) :
    σ.value? handle = some expr ↔ ∃ place, pattern.CapturesAt subject handle place expr ∧
      ∀ earlier : Place, earlier.Before place → ¬ pattern.OccursAt handle earlier := by
  have haligned := alignedWith_of_match hmatch
  obtain ⟨hend, hrecord⟩ := matchAgainst_eq_ok_iff.mp hmatch
  rw [Subst.value?_recordAll_of hrecord, Subst.value?_empty, Option.none_or,
    findSome?_pairings_align _ hend]
  simp only [findSome?_pairingsOf_eq_some_iff haligned, findSome?_pairingsOf_eq_none_iff haligned]
  constructor
  · intro h
    obtain ⟨π, ⟨i, hcaptures, hnode⟩, hpaths⟩ := h
    refine ⟨⟨π, i⟩, hcaptures, ?_⟩
    intro earlier hbefore
    obtain ⟨ρ, j⟩ := earlier
    rcases hbefore with hlt | ⟨rfl, hlt⟩
    · exact hpaths ρ hlt j
    · exact hnode j hlt
  · intro h
    obtain ⟨⟨π, i⟩, hcaptures, hfirst⟩ := h
    exact ⟨π, ⟨i, hcaptures, fun j hlt => hfirst ⟨π, j⟩ (.inr ⟨rfl, hlt⟩)⟩,
      fun ρ hlt j => hfirst ⟨ρ, j⟩ (.inl hlt)⟩

/-- A match binds a name to what the first application of a user function of that name faces. -/
theorem function?_eq_some_iff_of_match (hmatch : pattern.matchAgainst options subject = .ok σ)
    (name : String) (symbol : Symbol) :
    σ.function? name = some symbol ↔
      ∃ π f, pattern.SymbolsAt subject π f symbol ∧ f.isUser = true ∧ f.name = name ∧
        ∀ ρ < π, ∀ span f' args, pattern.at? ρ = some (.apply span f' args) →
          f'.isUser = true → f'.name ≠ name := by
  have haligned := alignedWith_of_match hmatch
  obtain ⟨hend, hrecord⟩ := matchAgainst_eq_ok_iff.mp hmatch
  rw [Subst.function?_recordAll_of hrecord, Subst.function?_empty, Option.none_or,
    findSome?_pairings_align _ hend]
  simp only [findSome?_function?_pairingsOf_eq_some_iff,
    findSome?_function?_pairingsOf_eq_none_iff haligned, ← exists_and_right, and_assoc]

/-- A match binds the handles of the pattern's identifiers and resolved binders, each to what its first
place faces: a wildcard to the subject node there, span and all, a binder to the subject's binder
under the span of its quantifier. It binds the names of the pattern's user functions, each to the
symbol that the first application of such a function faces. It binds nothing else. -/
theorem match_binds_first (hmatch : pattern.matchAgainst options subject = .ok σ) :
    (∀ handle, (σ.value? handle).isSome = true ↔
      ∃ id ∈ pattern.identifiers ++ pattern.binders, id.decl = some handle) ∧
    (∀ handle expr, σ.value? handle = some expr ↔
      ∃ place, pattern.CapturesAt subject handle place expr ∧
        ∀ earlier : Place, earlier.Before place → ¬ pattern.OccursAt handle earlier) ∧
    (∀ name, (σ.function? name).isSome = true ↔
      ∃ f ∈ pattern.symbols, f.isUser = true ∧ f.name = name) ∧
    (∀ name symbol, σ.function? name = some symbol ↔
      ∃ π f, pattern.SymbolsAt subject π f symbol ∧ f.isUser = true ∧ f.name = name ∧
        ∀ ρ < π, ∀ span f' args, pattern.at? ρ = some (.apply span f' args) →
          f'.isUser = true → f'.name ≠ name) := by
  refine ⟨?_, value?_eq_some_iff_of_match hmatch, ?_, function?_eq_some_iff_of_match hmatch⟩
  · intro handle
    exact isSome_value?_iff_of_match hmatch
  · intro name
    exact isSome_function?_iff_of_match hmatch

/-- `(forall y :: f(x, y)) && f(x, y)`. -/
def twiceApplied : Expr :=
  let applied : Expr := .apply .synthetic (.call "f" (some ⟨9⟩))
    [.ident .synthetic ⟨"x", some ⟨1⟩⟩, .ident .synthetic ⟨"y", some ⟨2⟩⟩]
  .apply .synthetic (.binary .and)
    [.quantified .synthetic .forall [⟨"y", some ⟨2⟩⟩] applied, applied]

/-- `(forall v :: u + v) && u + v`, read from that text. -/
def twiceAdded : Expr :=
  .apply ⟨0, 28⟩ (.binary .and)
    [.quantified ⟨0, 19⟩ .forall [⟨"v", some ⟨6⟩⟩] (.apply ⟨13, 5⟩ (.binary .add)
      [.ident ⟨13, 1⟩ ⟨"u", some ⟨7⟩⟩, .ident ⟨17, 1⟩ ⟨"v", some ⟨6⟩⟩]),
    .apply ⟨23, 5⟩ (.binary .add)
      [.ident ⟨23, 1⟩ ⟨"u", some ⟨7⟩⟩, .ident ⟨27, 1⟩ ⟨"v", some ⟨6⟩⟩]]

/-- Of the three places of `y` the binder comes first, so that `v` is bound with the span of the
quantifier. -/
theorem match_binds_first_binder :
    ∃ σ, twiceApplied.matchAgainst {} twiceAdded = .ok σ ∧
      σ.value? ⟨2⟩ = some (.ident ⟨0, 19⟩ ⟨"v", some ⟨6⟩⟩) := by
  have hmatch : twiceApplied.matchAgainst {} twiceAdded = .ok _ := rfl
  obtain ⟨-, hvalues, -, -⟩ := match_binds_first hmatch
  refine ⟨_, hmatch, (hvalues ⟨2⟩ _).mpr ⟨⟨[0], 0⟩, ⟨_, _, _, rfl, rfl, rfl, rfl, rfl⟩, ?_⟩⟩
  intro earlier hbefore hoccurs
  obtain ⟨ρ, j⟩ := earlier
  obtain ⟨node, id, hnode, hid, -⟩ := hoccurs
  rcases hbefore with hlt | ⟨-, hlt⟩
  · cases ρ with
    | nil =>
      -- only the root comes before the quantifier, and it has no own identifier
      cases hnode
      cases hid
    | cons i ρ => simp [List.cons_lt_cons_iff] at hlt
  · exact Nat.not_lt_zero j hlt

end Expr

end Graft
