import Graft.Expr.Parts
import Graft.Proofs.Match.Acceptance
import Graft.Proofs.Traversal.Identifiers

/-!
# What is captured

Where the handles and names of a successful match come from: every identifier, resolved binder and
user function of the pattern captures something, and nothing else does.
-/

namespace Graft

namespace Expr

variable {σ : Subst} {options : Options} {pattern subject : Expr}

/-! ## Captures and the parts of both sides -/

theorem Captures.exists_handle {handle : Handle} {expr : Expr}
    (h : pattern.Captures subject handle expr) :
    ∃ id ∈ pattern.identifiers ++ pattern.binders, id.decl = some handle := by
  cases h with
  | @wildcard π span id expr hpattern hdecl hsubject =>
    exact ⟨id, List.mem_append_left _ (mem_identifiers_iff.mpr ⟨π, span, hpattern⟩), hdecl⟩
  | binder hpattern hsubject hbinder hdecl hbinder' =>
    have hmem := mem_binders_iff.mpr ⟨_, _, _, _, _, hpattern, List.mem_of_getElem? hbinder⟩
    exact ⟨_, List.mem_append_right _ hmem, hdecl⟩

/-- A captured identifier stands in the subject, as an identifier or as a binder. -/
theorem Captures.ident_mem {handle : Handle} {expr : Expr} {id : Ident}
    (h : pattern.Captures subject handle expr) (hident : expr.ident? = some id) :
    id ∈ subject.identifiers ++ subject.binders := by
  cases h with
  | @wildcard π span id' expr hpattern hdecl hsubject =>
    rcases ident?_eq_some_iff.mp hident with ⟨span', rfl⟩
    exact List.mem_append_left _ (mem_identifiers_iff.mpr ⟨π, span', hsubject⟩)
  | binder hpattern hsubject hbinder hdecl hbinder' =>
    cases hident
    exact List.mem_append_right _ (mem_binders_iff.mpr
      ⟨_, _, _, _, _, hsubject, List.mem_of_getElem? hbinder'⟩)

/-- Every resolved binder of an aligned pattern faces a binder. -/
theorem exists_captures_ident (haligned : pattern.AlignedWith subject) {binder : Ident}
    {handle : Handle} (hbinder : binder ∈ pattern.binders) (hdecl : binder.decl = some handle) :
    ∃ span id, pattern.Captures subject handle (.ident span id) := by
  rcases mem_binders_iff.mp hbinder with ⟨π, span, quantifier, binders, body, hpattern, hmem⟩
  rcases haligned π _ hpattern with ⟨node', hsubject, hadmits⟩
  rcases admits_quantified_iff.mp hadmits with ⟨span', binders', body', rfl, hlength⟩
  -- the subject's quantifier has as many binders
  rcases List.mem_iff_getElem?.mp hmem with ⟨i, hbinder⟩
  rcases exists_getElem?_of_length_eq hlength.symm hbinder with ⟨binder', hbinder'⟩
  exact ⟨span', binder', .binder hpattern hsubject hbinder hdecl hbinder'⟩

/-- Every resolved identifier or binder of an aligned pattern faces something. -/
theorem exists_captures (haligned : pattern.AlignedWith subject) {id : Ident} {handle : Handle}
    (hid : id ∈ pattern.identifiers ++ pattern.binders) (hdecl : id.decl = some handle) :
    ∃ expr, pattern.Captures subject handle expr := by
  rcases List.mem_append.mp hid with hident | hbinder
  · rcases mem_identifiers_iff.mp hident with ⟨π, span, hpattern⟩
    rcases haligned π _ hpattern with ⟨expr, hsubject, -⟩
    exact ⟨expr, .wildcard hpattern hdecl hsubject⟩
  · rcases exists_captures_ident haligned hbinder hdecl with ⟨span, id', hcaptures⟩
    exact ⟨.ident span id', hcaptures⟩

theorem SymbolsAt.mem_symbols {π : Path} {symbol symbol' : Symbol}
    (h : pattern.SymbolsAt subject π symbol symbol') : symbol ∈ pattern.symbols := by
  rcases h with ⟨span, args, span', args', hpattern, -⟩
  exact mem_symbols_iff.mpr ⟨π, span, args, hpattern⟩

/-- Every symbol of an aligned pattern faces one. -/
theorem exists_symbolsAt (haligned : pattern.AlignedWith subject) {symbol : Symbol}
    (h : symbol ∈ pattern.symbols) : ∃ π symbol', pattern.SymbolsAt subject π symbol symbol' := by
  rcases mem_symbols_iff.mp h with ⟨π, span, args, hpattern⟩
  rcases haligned π _ hpattern with ⟨node', hsubject, hadmits⟩
  rcases admits_apply_iff.mp hadmits with ⟨span', symbol', args', rfl, -, -⟩
  exact ⟨π, symbol', span, args, span', args', hpattern, hsubject⟩

theorem SymbolsAt.eq_or_isUser (haligned : pattern.AlignedWith subject) {π : Path}
    {symbol symbol' : Symbol} (h : pattern.SymbolsAt subject π symbol symbol') :
    symbol = symbol' ∨ symbol.isUser = true := by
  rcases h with ⟨span, args, span', args', hpattern, hsubject⟩
  exact (haligned.admits_at hpattern hsubject).2

/-! ## The handles and names of a match -/

theorem alignedWith_of_match (h : pattern.matchAgainst options subject = .ok σ) :
    pattern.AlignedWith subject :=
  (mismatch?_align_eq_none_iff pattern subject).mp (matchAgainst_eq_ok_iff.mp h).1

theorem captures_of_value? (h : pattern.matchAgainst options subject = .ok σ) {handle : Handle}
    {expr : Expr} (hvalue : σ.value? handle = some expr) :
    pattern.Captures subject handle expr := by
  rcases matchAgainst_eq_ok_iff.mp h with ⟨-, hrecord⟩
  rcases Subst.mem_of_value?_recordAll hrecord hvalue with ⟨name, hmem⟩
  rcases (mem_pairings_align_iff (alignedWith_of_match h)).mp hmem with ⟨π, hπ⟩
  exact capture_mem_pairingsOf hπ

/-- What faces a handle is similar to what is bound to it. -/
theorem value?_of_captures (h : pattern.matchAgainst options subject = .ok σ) {handle : Handle}
    {expr : Expr} (hcaptures : pattern.Captures subject handle expr) :
    ∃ first, σ.value? handle = some first ∧ first.similar expr = true := by
  rcases matchAgainst_eq_ok_iff.mp h with ⟨-, hrecord⟩
  rcases hcaptures.exists_mem_pairings (alignedWith_of_match h) with ⟨name, hmem⟩
  rcases Subst.value?_of_mem hrecord hmem with ⟨name', first, -, hvalue, hsimilar⟩
  exact ⟨first, hvalue, hsimilar⟩

/-- What faces one handle is similar. -/
theorem similar_of_captures (h : pattern.matchAgainst options subject = .ok σ) {handle : Handle}
    {expr expr' : Expr} (hcaptures : pattern.Captures subject handle expr)
    (hcaptures' : pattern.Captures subject handle expr') : expr.similar expr' = true := by
  rcases value?_of_captures h hcaptures with ⟨first, hvalue, hsimilar⟩
  rcases value?_of_captures h hcaptures' with ⟨first', hvalue', hsimilar'⟩
  rw [hvalue, Option.some.injEq] at hvalue'
  rw [← hvalue'] at hsimilar'
  exact similar_trans (similar_symm hsimilar) hsimilar'

theorem symbolsAt_of_function? (h : pattern.matchAgainst options subject = .ok σ) {name : String}
    {symbol' : Symbol} (hfunction : σ.function? name = some symbol') :
    ∃ π symbol, pattern.SymbolsAt subject π symbol symbol' ∧ symbol.isUser = true ∧
      symbol.name = name := by
  rcases matchAgainst_eq_ok_iff.mp h with ⟨-, hrecord⟩
  rcases Subst.mem_of_function?_recordAll hrecord hfunction with ⟨symbol, hmem, huser, hname⟩
  rcases (mem_pairings_align_iff (alignedWith_of_match h)).mp hmem with ⟨π, hπ⟩
  exact ⟨π, symbol, symbols_mem_pairingsOf_iff.mp hπ, huser, hname⟩

/-- A user function of the pattern is bound, and in strict mode to the symbol that it faces. -/
theorem function?_of_symbolsAt (h : pattern.matchAgainst options subject = .ok σ) {π : Path}
    {symbol symbol' : Symbol} (hat : pattern.SymbolsAt subject π symbol symbol')
    (huser : symbol.isUser = true) :
    ∃ first, σ.function? symbol.name = some first ∧
      (options.strictFunctionCapture = true → first = symbol') := by
  rcases matchAgainst_eq_ok_iff.mp h with ⟨-, hrecord⟩
  have hcompatible := Subst.exists_recordAll_iff.mp ⟨σ, hrecord⟩
  have hmem := (mem_pairings_align_iff (alignedWith_of_match h)).mpr
    ⟨π, symbols_mem_pairingsOf_iff.mpr hat⟩
  rcases Subst.function?_of_mem hrecord hmem huser with
    ⟨earlier, first, hfirst, huser', hname, hfunction⟩
  refine ⟨first, hfunction, ?_⟩
  intro hstrict
  rw [hstrict] at hcompatible
  exact Subst.eq_of_compatible hcompatible hfirst hmem huser' huser hname

/-- A match binds the handles of the pattern's identifiers and binders, and no other ones. -/
theorem isSome_value?_iff_of_match (h : pattern.matchAgainst options subject = .ok σ)
    {handle : Handle} : (σ.value? handle).isSome = true ↔
      ∃ id ∈ pattern.identifiers ++ pattern.binders, id.decl = some handle := by
  refine ⟨?_, ?_⟩
  · intro hsome
    rcases Option.isSome_iff_exists.mp hsome with ⟨expr, hvalue⟩
    exact (captures_of_value? h hvalue).exists_handle
  · rintro ⟨id, hid, hdecl⟩
    rcases exists_captures (alignedWith_of_match h) hid hdecl with ⟨expr, hcaptures⟩
    rcases value?_of_captures h hcaptures with ⟨first, hvalue, -⟩
    exact Option.isSome_iff_exists.mpr ⟨first, hvalue⟩

/-- A match binds the names of the pattern's user functions, and no other ones. -/
theorem isSome_function?_iff_of_match (h : pattern.matchAgainst options subject = .ok σ)
    {name : String} : (σ.function? name).isSome = true ↔
      ∃ symbol ∈ pattern.symbols, symbol.isUser = true ∧ symbol.name = name := by
  refine ⟨?_, ?_⟩
  · intro hsome
    rcases Option.isSome_iff_exists.mp hsome with ⟨symbol', hfunction⟩
    rcases symbolsAt_of_function? h hfunction with ⟨π, symbol, hat, huser, hname⟩
    exact ⟨symbol, hat.mem_symbols, huser, hname⟩
  · rintro ⟨symbol, hmem, huser, rfl⟩
    rcases exists_symbolsAt (alignedWith_of_match h) hmem with ⟨π, symbol', hat⟩
    rcases function?_of_symbolsAt h hat huser with ⟨first, hfunction, -⟩
    exact Option.isSome_iff_exists.mpr ⟨first, hfunction⟩

end Expr

end Graft
