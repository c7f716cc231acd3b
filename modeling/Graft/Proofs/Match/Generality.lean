import Graft.Proofs.Match.Strictness

/-!
# Generality of patterns

A pattern is at least as general as what it matches, and in strict mode that is transitive
(`exists_match_trans`). What the pattern sets against the subject, it sets against it through the
middle. A wildcard of the pattern that captures twice captures similar parts of the middle, and these
face similar parts of the subject (`similar_of_faces`): one handle of the middle faces similar trees
there, one symbol faces one symbol, and one binder one binder.
-/

namespace Graft

namespace Expr

variable {σ τ : Subst} {options : Options} {pattern middle subject : Expr}

/-! ## Through the middle -/

theorem Admits.trans {node mid node' : Expr} (h : node.Admits mid) (h' : mid.Admits node') :
    node.Admits node' := by
  cases node with
  | ident span wildcard => exact h
  | literal span value =>
    rcases admits_literal_iff.mp h with ⟨span', rfl⟩
    exact admits_literal_iff.mpr (admits_literal_iff.mp h')
  | apply span f args =>
    rcases admits_apply_iff.mp h with ⟨span', g, args', rfl, hlength, hsymbol⟩
    rcases admits_apply_iff.mp h' with ⟨span'', k, args'', rfl, hlength', hsymbol'⟩
    refine ⟨hlength.trans hlength', ?_⟩
    -- a symbol that admits only itself hands on what it admits
    rcases hsymbol with heq | huser
    · rw [heq]
      exact hsymbol'
    · exact .inr huser
  | quantified span quantifier binders body =>
    rcases admits_quantified_iff.mp h with ⟨span', binders', body', rfl, hlength⟩
    rcases admits_quantified_iff.mp h' with ⟨span'', binders'', body'', rfl, hlength'⟩
    exact ⟨rfl, hlength.trans hlength'⟩

theorem AlignedWith.trans (h : pattern.AlignedWith middle) (h' : middle.AlignedWith subject) :
    pattern.AlignedWith subject := by
  intro π node hnode
  rcases h π node hnode with ⟨mid, hmid, hadmits⟩
  rcases h' π mid hmid with ⟨node', hnode', hadmits'⟩
  exact ⟨node', hnode', hadmits.trans hadmits'⟩

theorem SymbolsAt.through (haligned : pattern.AlignedWith middle) {π : Path} {f k : Symbol}
    (h : pattern.SymbolsAt subject π f k) :
    ∃ g, pattern.SymbolsAt middle π f g ∧ middle.SymbolsAt subject π g k := by
  rcases h with ⟨span, args, span', args', hpattern, hsubject⟩
  rcases haligned π _ hpattern with ⟨mid, hmid, hadmits⟩
  rcases admits_apply_iff.mp hadmits with ⟨span'', g, args'', rfl, -, -⟩
  exact ⟨g, ⟨span, args, span'', args'', hpattern, hmid⟩,
    ⟨span'', args'', span', args', hmid, hsubject⟩⟩

/-- What the pattern captures in the subject is faced by what it captures in the middle. -/
theorem Captures.through (haligned : pattern.AlignedWith middle) {handle : Handle} {expr : Expr}
    (h : pattern.Captures subject handle expr) :
    ∃ mid, pattern.Captures middle handle mid ∧ middle.Faces subject mid expr := by
  cases h with
  | @wildcard π _ _ _ hpattern hdecl hsubject =>
    rcases haligned π _ hpattern with ⟨mid, hmid, -⟩
    exact ⟨mid, .wildcard hpattern hdecl hmid, .node hmid hsubject⟩
  | @binder π _ _ _ _ _ _ _ _ _ _ _ hpattern hsubject hbinder hdecl hbinder' =>
    rcases haligned π _ hpattern with ⟨mid, hmid, hadmits⟩
    rcases admits_quantified_iff.mp hadmits with ⟨span, binders, body, rfl, hlength⟩
    -- the quantifier of the middle has as many binders as that of the pattern
    rcases exists_getElem?_of_length_eq hlength.symm hbinder with ⟨binder, hmiddle⟩
    exact ⟨.ident span binder, .binder hpattern hmid hbinder hdecl hmiddle,
      .binder hmid hsubject hmiddle hbinder'⟩

/-! ## Parts that face each other -/

namespace Faces

/-- What an identifier faces is captured under its handle. -/
theorem captures {span : Span} {id : Ident} {expr : Expr}
    (h : middle.Faces subject (.ident span id) expr) {handle : Handle}
    (hdecl : id.decl = some handle) : middle.Captures subject handle expr := by
  cases h with
  | node hpattern hsubject => exact .wildcard hpattern hdecl hsubject
  | binder hpattern hsubject hbinder hbinder' =>
    exact .binder hpattern hsubject hbinder hdecl hbinder'

theorem admits (haligned : middle.AlignedWith subject)
    (hbinders : ∀ binder ∈ middle.binders, binder.decl.isSome = true) {expr expr' : Expr}
    (h : middle.Faces subject expr expr') : expr.Admits expr' := by
  cases h with
  | node hpattern hsubject => exact haligned.admits_at hpattern hsubject
  | binder hpattern hsubject hbinder hbinder' =>
    exact hbinders _ (mem_binders_iff.mpr ⟨_, _, _, _, _, hpattern, List.mem_of_getElem? hbinder⟩)

section Apply

variable {span span' : Span} {f g : Symbol} {args args' : List Expr}

theorem symbolsAt (h : middle.Faces subject (.apply span f args) (.apply span' g args')) :
    ∃ π, middle.SymbolsAt subject π f g := by
  cases h with
  | @node π _ _ hpattern hsubject => exact ⟨π, span, args, span', args', hpattern, hsubject⟩

theorem arg (h : middle.Faces subject (.apply span f args) (.apply span' g args')) {i : Nat}
    {arg arg' : Expr} (harg : args[i]? = some arg) (harg' : args'[i]? = some arg') :
    middle.Faces subject arg arg' := by
  cases h with
  | @node π _ _ hpattern hsubject =>
    have hat : middle.at? (π ++ [i]) = some arg := by
      rw [at?_append, hpattern, Option.bind_some, at?_apply_cons]
      exact atAll?_eq_some_iff.mpr ⟨arg, harg, at?_nil arg⟩
    have hat' : subject.at? (π ++ [i]) = some arg' := by
      rw [at?_append, hsubject, Option.bind_some, at?_apply_cons]
      exact atAll?_eq_some_iff.mpr ⟨arg', harg', at?_nil arg'⟩
    exact .node hat hat'

end Apply

section Quantified

variable {span span' : Span} {quantifier quantifier' : Quantifier} {binders binders' : List Ident}
  {inner inner' : Expr}

theorem body (h : middle.Faces subject (.quantified span quantifier binders inner)
    (.quantified span' quantifier' binders' inner')) : middle.Faces subject inner inner' := by
  cases h with
  | @node π _ _ hpattern hsubject =>
    have hat : middle.at? (π ++ [0]) = some inner := by
      rw [at?_append, hpattern, Option.bind_some, at?_quantified_zero_cons, at?_nil]
    have hat' : subject.at? (π ++ [0]) = some inner' := by
      rw [at?_append, hsubject, Option.bind_some, at?_quantified_zero_cons, at?_nil]
    exact .node hat hat'

theorem binder_of_quantified (h : middle.Faces subject (.quantified span quantifier binders inner)
    (.quantified span' quantifier' binders' inner')) {i : Nat} {binder binder' : Ident}
    (hbinder : binders[i]? = some binder) (hbinder' : binders'[i]? = some binder') :
    middle.Faces subject (.ident span binder) (.ident span' binder') := by
  cases h with
  | node hpattern hsubject => exact .binder hpattern hsubject hbinder hbinder'

theorem mem_binders (h : middle.Faces subject (.quantified span quantifier binders inner)
    (.quantified span' quantifier' binders' inner')) :
    binders ⊆ middle.binders ∧ binders' ⊆ subject.binders := by
  cases h with
  | node hpattern hsubject =>
    exact ⟨fun binder hbinder => mem_binders_iff.mpr ⟨_, _, _, _, _, hpattern, hbinder⟩,
      fun binder hbinder => mem_binders_iff.mpr ⟨_, _, _, _, _, hsubject, hbinder⟩⟩

end Quantified

end Faces

/-! ## Similar parts -/

section Similar

variable (hmatch : middle.matchAgainst options subject = .ok τ)
  (hbinders : ∀ binder ∈ middle.binders, binder.decl.isSome = true)
  (hnames : ∀ a ∈ subject.binders, ∀ b ∈ subject.binders,
    a.decl.isSome = true → a.decl = b.decl → a.name = b.name)

include hmatch hbinders hnames

/-- The same binders face the same binders, names included. -/
theorem binders_eq_of_faces {span span' span₁ span₁' : Span}
    {quantifier quantifier' quantifier₁ quantifier₁' : Quantifier}
    {binders found found' : List Ident} {body body' body₁ body₁' : Expr}
    (h : middle.Faces subject (.quantified span quantifier binders body)
      (.quantified span₁ quantifier₁ found body₁))
    (h' : middle.Faces subject (.quantified span' quantifier' binders body')
      (.quantified span₁' quantifier₁' found' body₁')) : found = found' := by
  have haligned := alignedWith_of_match hmatch
  have hlength : binders.length = found.length := (h.admits haligned hbinders).2
  have hlength' : binders.length = found'.length := (h'.admits haligned hbinders).2
  refine List.ext_getElem (hlength.symm.trans hlength') ?_
  intro i hi hi'
  have hfound := List.getElem?_eq_getElem hi
  have hfound' := List.getElem?_eq_getElem hi'
  rcases exists_getElem?_of_length_eq hlength hfound with ⟨binder, hbinder⟩
  have hmem := h.mem_binders.1 (List.mem_of_getElem? hbinder)
  rcases Option.isSome_iff_exists.mp (hbinders binder hmem) with ⟨handle, hdecl⟩
  -- both are captured under the handle of the binder that they face
  have hcaptures := (h.binder_of_quantified hbinder hfound).captures hdecl
  have hcaptures' := (h'.binder_of_quantified hbinder hfound').captures hdecl
  have hsame : found[i].same found'[i] = true := similar_of_captures hmatch hcaptures hcaptures'
  exact Ident.eq_of_same hsame (hnames _ (h.mem_binders.2 (List.getElem_mem hi)) _
    (h'.mem_binders.2 (List.getElem_mem hi')))

/-- In strict mode similar parts of the middle face similar parts of the subject. -/
theorem similar_of_faces (hstrict : options.strictFunctionCapture = true) (expr : Expr) :
    ∀ expr' found found', middle.Faces subject expr found → middle.Faces subject expr' found' →
      expr.similar expr' = true → found.similar found' = true := by
  have haligned := alignedWith_of_match hmatch
  induction expr using Expr.induction with
  | ident span id =>
    intro expr' found found' h h' hsimilar
    rcases similar_ident_iff.mp hsimilar with ⟨span', id', rfl, hsame⟩
    -- both are identifiers with one handle, and what faces a handle is similar
    rcases Option.isSome_iff_exists.mp (h.admits haligned hbinders) with ⟨handle, hdecl⟩
    have hdecl' : id'.decl = some handle := by rw [← Ident.decl_eq_of_same hsame, hdecl]
    exact similar_of_captures hmatch (h.captures hdecl) (h'.captures hdecl')
  | literal span value =>
    intro expr' found found' h h' hsimilar
    rcases similar_literal_iff.mp hsimilar with ⟨span', rfl⟩
    rcases admits_literal_iff.mp (h.admits haligned hbinders) with ⟨span₁, rfl⟩
    exact similar_literal_iff.mpr (admits_literal_iff.mp (h'.admits haligned hbinders))
  | apply span f args argsIH =>
    intro expr' found found' h h' hsimilar
    rcases similar_apply_iff.mp hsimilar with ⟨span', args', rfl, hsimilars⟩
    rcases admits_apply_iff.mp (h.admits haligned hbinders) with
      ⟨span₁, g, args₁, rfl, hlength, -⟩
    rcases admits_apply_iff.mp (h'.admits haligned hbinders) with
      ⟨span₁', g', args₁', rfl, hlength', -⟩
    rw [similars_iff] at hsimilars
    have hsymbol : g = g' := by
      rcases h.symbolsAt with ⟨π, hat⟩
      rcases h'.symbolsAt with ⟨π', hat'⟩
      exact hat.eq_of_eq hmatch hstrict hat'
    have hargs : similars args₁ args₁' = true := by
      rw [similars_iff]
      refine ⟨hlength.symm.trans (hsimilars.1.trans hlength'), ?_⟩
      intro i arg₁ arg₁' harg₁ harg₁'
      rcases exists_getElem?_of_length_eq hlength harg₁ with ⟨arg, harg⟩
      rcases exists_getElem?_of_length_eq hlength' harg₁' with ⟨arg', harg'⟩
      exact argsIH arg (List.mem_of_getElem? harg) arg' arg₁ arg₁' (h.arg harg harg₁)
        (h'.arg harg' harg₁') (hsimilars.2 i arg arg' harg harg')
    rw [hsymbol]
    exact similar_apply_iff.mpr ⟨span₁', args₁', rfl, hargs⟩
  | quantified span quantifier binders body bodyIH =>
    intro expr' found found' h h' hsimilar
    rcases similar_quantified_iff.mp hsimilar with ⟨span', body', rfl, hinner⟩
    rcases admits_quantified_iff.mp (h.admits haligned hbinders) with
      ⟨span₁, binders₁, body₁, rfl, -⟩
    rcases admits_quantified_iff.mp (h'.admits haligned hbinders) with
      ⟨span₁', binders₁', body₁', rfl, -⟩
    have hbody := bodyIH body' body₁ body₁' h.body h'.body hinner
    rw [binders_eq_of_faces hmatch hbinders hnames h h']
    exact similar_quantified_iff.mpr ⟨span₁', body₁', rfl, hbody⟩

end Similar

/-! ## Transitivity -/

/-- In strict mode a pattern that matches a more special pattern matches whatever that one matches.
Binders of the middle have to be resolved, since an unresolved one faces anything; binders of the
subject have to be named alike when they have one handle, since what a wildcard captures twice is
compared with the names of its binders. -/
theorem exists_match_trans (hstrict : options.strictFunctionCapture = true)
    (hpattern : pattern.matchAgainst options middle = .ok σ)
    (hmiddle : middle.matchAgainst options subject = .ok τ)
    (hbinders : ∀ binder ∈ middle.binders, binder.decl.isSome = true)
    (hnames : ∀ a ∈ subject.binders, ∀ b ∈ subject.binders,
      a.decl.isSome = true → a.decl = b.decl → a.name = b.name) :
    ∃ ρ, pattern.matchAgainst options subject = .ok ρ := by
  have haligned := alignedWith_of_match hpattern
  have haligned' := haligned.trans (alignedWith_of_match hmiddle)
  refine exists_match_iff_compatible.mpr
    ⟨haligned', (pairwise_compatible_iff haligned').mpr ⟨?_, ?_⟩⟩
  · -- captures of one handle are similar in the middle, and so in the subject
    intro handle expr expr' hexpr hexpr'
    rcases hexpr.through haligned with ⟨mid, hmid, hfaces⟩
    rcases hexpr'.through haligned with ⟨mid', hmid', hfaces'⟩
    have hsimilar := similar_of_captures hpattern hmid hmid'
    exact similar_of_faces hmiddle hbinders hnames hstrict mid mid' expr expr' hfaces hfaces'
      hsimilar
  · -- a user function and a later symbol of its name face one symbol in the middle
    intro _ π π' f f' k k' hlt hat hat' huser hname
    rcases hat.through haligned with ⟨g, hg, hk⟩
    rcases hat'.through haligned with ⟨g', hg', hk'⟩
    have hsame : g = g' := hg.eq_of_lt hpattern hstrict hlt hg' huser hname
    rw [← hsame] at hk'
    exact hk.eq_of_eq hmiddle hstrict hk'

/-- `f(arg) && f(arg)`. -/
def twice (f : Symbol) (arg : Expr) : Expr :=
  .apply .synthetic (.binary .and) [.apply .synthetic f [arg], .apply .synthetic f [arg]]

/-- `forall x :: f(x) == value`. -/
def forallEq (f : Symbol) (x : Ident) (value : Expr) : Expr :=
  .quantified .synthetic .forall [x]
    (.apply .synthetic (.binary .eq) [.apply .synthetic f [.ident .synthetic x], value])

/-- `p(w) && p(w)` captures `forall i :: q(i) == y` twice, whose binder, function and free identifier
capture in turn. What they face, `forall k :: -k == 0`, is one quantifier again. -/
theorem exists_match_trans_quantifier :
    ∃ σ τ ρ,
      (twice (.call "p" (some ⟨9⟩)) (.ident .synthetic ⟨"w", some ⟨1⟩⟩)).matchAgainst {}
        (twice (.unary .not) (forallEq (.call "q" (some ⟨8⟩)) ⟨"i", some ⟨3⟩⟩
          (.ident .synthetic ⟨"y", some ⟨2⟩⟩))) = .ok σ ∧
      (twice (.unary .not) (forallEq (.call "q" (some ⟨8⟩)) ⟨"i", some ⟨3⟩⟩
          (.ident .synthetic ⟨"y", some ⟨2⟩⟩))).matchAgainst {}
        (twice (.unary .not) (forallEq (.unary .neg) ⟨"k", some ⟨5⟩⟩
          (.literal .synthetic (.int 0)))) = .ok τ ∧
      (twice (.call "p" (some ⟨9⟩)) (.ident .synthetic ⟨"w", some ⟨1⟩⟩)).matchAgainst {}
        (twice (.unary .not) (forallEq (.unary .neg) ⟨"k", some ⟨5⟩⟩
          (.literal .synthetic (.int 0)))) = .ok ρ := by
  have hpattern : (twice (.call "p" (some ⟨9⟩)) (.ident .synthetic ⟨"w", some ⟨1⟩⟩)).matchAgainst {}
      (twice (.unary .not) (forallEq (.call "q" (some ⟨8⟩)) ⟨"i", some ⟨3⟩⟩
        (.ident .synthetic ⟨"y", some ⟨2⟩⟩))) = .ok _ := rfl
  have hmiddle : (twice (.unary .not) (forallEq (.call "q" (some ⟨8⟩)) ⟨"i", some ⟨3⟩⟩
        (.ident .synthetic ⟨"y", some ⟨2⟩⟩))).matchAgainst {}
      (twice (.unary .not) (forallEq (.unary .neg) ⟨"k", some ⟨5⟩⟩
        (.literal .synthetic (.int 0)))) = .ok _ := rfl
  rcases exists_match_trans rfl hpattern hmiddle (by decide) (by decide) with ⟨ρ, hmatch⟩
  exact ⟨_, _, ρ, hpattern, hmiddle, hmatch⟩

end Expr

end Graft
