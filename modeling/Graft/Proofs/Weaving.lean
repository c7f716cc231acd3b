import Graft.Proofs.Match.Candidates
import Graft.Proofs.Match.RoundTrip
import Graft.Proofs.Signature.Verdict
import Graft.Proofs.Subst.Faults
import Graft.Weaving

/-!
# What is woven

An aspect is woven into exactly the implementations that its pattern is compatible with, and then
finds at every command, in order, what its guard captures in the first expression there that it
matches (`decides_weave`). What is inserted at a command is the companion with these captures, and
nothing but a written variable can keep it out (`exists_inserted_iff`). In particular an aspect that
asserts its guard asserts what the guard was found in (`weave_asserts_subject`).
-/

namespace Graft

namespace Aspect

variable {options : Options} {contained : Containment} {aspect : Aspect}
  {implementation : Implementation} {waivers : Waivers} {sites : List Site} {site : Site}
  {command : Command} {σ : Subst}

/-! ## Where the guard is found -/

/-- Holds of a command and the site that an aspect makes of it. -/
structure Finds (options : Options) (aspect : Aspect) (command : Command) (site : Site) : Prop where
  stands : site.command = command
  answers : ∃ exprs, command.action.Evaluates exprs ∧
    aspect.guard.FirstAnswers options exprs site.outcome

theorem finds_iff : aspect.Finds options command site ↔ aspect.site options command = site := by
  obtain ⟨command', outcome⟩ := site
  have houtcome : (∃ exprs, command.action.Evaluates exprs ∧
      aspect.guard.FirstAnswers options exprs outcome) ↔
        aspect.guard.matchWithin options command = outcome := by
    simp only [← Command.candidates_eq_iff, exists_eq_left', Expr.firstAnswers_iff]
    rfl
  refine ⟨fun h => ?_, fun h => ?_⟩
  · obtain rfl : command' = command := h.stands
    show (⟨command', aspect.guard.matchWithin options command'⟩ : Site) = _
    rw [houtcome.mp h.answers]
  · cases h
    exact ⟨rfl, houtcome.mpr rfl⟩

theorem forall₂_finds_iff {commands : List Command} :
    List.Forall₂ (aspect.Finds options) commands sites ↔
      commands.map (aspect.site options) = sites := by
  have hfinds : aspect.Finds options = fun command site => aspect.site options command = site := by
    ext command site
    exact finds_iff
  rw [hfinds, ← List.forall₂_eq_eq_eq, List.forall₂_map_left_iff]

/-- What a site captured was captured in an expression that its command evaluates. -/
theorem Finds.exists_subject (h : aspect.Finds options command site)
    (hcaptured : site.outcome = .ok σ) : ∃ exprs, command.action.Evaluates exprs ∧
      ∃ subject ∈ exprs, aspect.guard.matchAgainst options subject = .ok σ := by
  obtain ⟨exprs, hevaluates, hanswers⟩ := h.answers
  rw [hcaptured] at hanswers
  cases hanswers with
  | hit after fails captures =>
    exact ⟨_, hevaluates, _, List.mem_append_right _ List.mem_cons_self, captures⟩

/-! ## Into what an aspect is woven -/

/-- An aspect is woven into the implementations that its pattern is compatible with. There is one site
for every command then, and what the pattern waives is handed back. Into every other implementation
it is not woven, for the reason for which the pattern refuses the signature. -/
theorem decides_weave (options : Options) (contained : Containment) (aspect : Aspect)
    (implementation : Implementation) :
    Signature.Decides (aspect.weave options contained implementation)
      (fun found =>
        (aspect.pattern.signature.Compatible options contained implementation.signature ∧
          Signature.Exposes aspect.pattern.signature.inputs found.1.inputs ∧
          Signature.Exposes aspect.pattern.signature.outputs found.1.outputs) ∧
        List.Forall₂ (aspect.Finds options) implementation.commands found.2)
      (aspect.pattern.signature.Refuses options contained implementation.signature) := by
  have hverdict := Signature.decides_matchAgainst options contained aspect.pattern.signature
    implementation.signature
  refine (hverdict.bind fun waivers => .ok _).congr ?_ ?_
  · intro found
    rw [forall₂_finds_iff]
    constructor
    · intro h
      obtain ⟨waivers, hpasses, rfl⟩ := h
      exact ⟨hpasses, rfl⟩
    · intro h
      exact ⟨found.1, h.1, Prod.ext rfl h.2.symm⟩
  · intro reason
    simp

theorem exists_finds_of_mem (hweave : aspect.weave options contained implementation =
    .ok (waivers, sites)) (hsite : site ∈ sites) :
    ∃ command ∈ implementation.commands, aspect.Finds options command site := by
  have hwoven := ((decides_weave options contained aspect implementation).eq_ok_iff _).mp hweave
  have hsites : implementation.commands.map (aspect.site options) = sites :=
    forall₂_finds_iff.mp hwoven.2
  rw [← hsites] at hsite
  obtain ⟨command, hcommand, hmade⟩ := List.mem_map.mp hsite
  exact ⟨command, hcommand, finds_iff.mpr hmade⟩

/-! ## What is inserted -/

/-- Commands are inserted with any captures that put identifiers where the companion writes. -/
theorem exists_inserted_iff : (∃ woven, aspect.inserted σ = .ok woven) ↔
    ∀ command ∈ aspect.companion, ∀ write ∈ command.writes, ∃ id, σ.Renames write.id id := by
  have hanswers := σ.answers_instantiateCommands aspect.companion
  rw [inserted, hanswers.exists_eq_ok_iff, List.findSome?_eq_none_iff]
  simp only [Subst.fault?_eq_none_iff, List.mem_flatMap]
  exact ⟨fun h command hcommand write hwrite => h write ⟨command, hcommand, hwrite⟩,
    fun h write hwrite => hwrite.elim fun command hwrite => h command hwrite.1 write hwrite.2⟩

/-- What is inserted is the companion, command by command, with what was captured in it. -/
theorem becomes_of_inserted {woven : List Command} (h : aspect.inserted σ = .ok woven) :
    List.Forall₂ (Command.Becomes σ) aspect.companion woven :=
  (σ.answers_instantiateCommands aspect.companion).of_eq_ok h

/-- A companion that writes nothing is inserted wherever the guard is found. -/
theorem exists_inserted_of_no_writes (h : aspect.companion.flatMap Command.writes = []) :
    ∃ woven, aspect.inserted σ = .ok woven := by
  refine exists_inserted_iff.mpr fun command hcommand write hwrite => ?_
  have hmem : write ∈ aspect.companion.flatMap Command.writes :=
    List.mem_flatMap.mpr ⟨command, hcommand, hwrite⟩
  rw [h] at hmem
  cases hmem

/-- A guard that is asserted is inserted with the captures in it. -/
theorem inserted_guard {span : Span}
    (hcompanion : aspect.companion = [⟨span, .assert aspect.guard⟩]) :
    aspect.inserted σ = .ok [⟨span, .assert (σ.instantiateExpr aspect.guard)⟩] := by
  have hwrites : aspect.companion.flatMap Command.writes = [] := by rw [hcompanion]; rfl
  obtain ⟨woven, hwoven⟩ := exists_inserted_of_no_writes (σ := σ) hwrites
  have hbecomes := becomes_of_inserted hwoven
  rw [hcompanion] at hbecomes
  cases hbecomes with
  | @cons _ first _ _ hfirst hrest =>
    cases hrest
    obtain ⟨span', action⟩ := first
    obtain rfl : span' = span := hfirst.span
    cases hfirst.action
    exact hwoven

/-- An aspect that asserts its guard inserts, wherever it finds the guard, the assertion of an
expression that the command there evaluates, up to similarity. The conditions are those under which a
pattern can be rebuilt from its captures. -/
theorem weave_asserts_subject {span : Span}
    (hweave : aspect.weave options contained implementation = .ok (waivers, sites))
    (hsite : site ∈ sites) (hcaptured : site.outcome = .ok σ)
    (hcompanion : aspect.companion = [⟨span, .assert aspect.guard⟩])
    (hstrict : options.strictFunctionCapture = true)
    (hbinders : ∀ binder ∈ aspect.guard.binders, binder.decl.isSome = true)
    (hsymbols : ∀ f ∈ aspect.guard.symbols, ∀ g ∈ aspect.guard.symbols,
      f.isUser = true → g.isUser = false → f.name ≠ g.name)
    (hnames : ∀ subject ∈ site.command.candidates,
      ∀ a ∈ subject.identifiers ++ subject.binders, ∀ b ∈ subject.identifiers ++ subject.binders,
        a.decl.isSome = true → a.decl = b.decl → a.name = b.name) :
    site.command ∈ implementation.commands ∧ ∃ exprs, site.command.action.Evaluates exprs ∧
      ∃ subject ∈ exprs, ∃ rebuilt, aspect.inserted σ = .ok [⟨span, .assert rebuilt⟩] ∧
        rebuilt.similar subject = true := by
  obtain ⟨command, hcommand, hfinds⟩ := exists_finds_of_mem hweave hsite
  obtain rfl : site.command = command := hfinds.stands
  obtain ⟨exprs, hevaluates, subject, hsubject, hmatch⟩ := hfinds.exists_subject hcaptured
  refine ⟨hcommand, exprs, hevaluates, subject, hsubject, _, inserted_guard hcompanion, ?_⟩
  have hcandidate : subject ∈ site.command.candidates := by
    rw [(site.command.candidates_eq_iff exprs).mpr hevaluates]
    exact hsubject
  have hrestores := Expr.restores_of_match hmatch hstrict hsymbols (hnames subject hcandidate)
  rw [Subst.instantiateExpr_eq_scopedExpr]
  exact Expr.similar_scopedExpr_of_restores aspect.guard subject (Expr.alignedWith_of_match hmatch)
    hbinders hrestores

/-- Asserts `p(x)` wherever it is found, in any procedure. -/
def assertsP : Aspect :=
  let guard : Expr := .apply .synthetic (.call "p" (some ⟨9⟩)) [.ident .synthetic ⟨"x", some ⟨1⟩⟩]
  let any : List Param := [⟨Signature.anyParams, none, .formal, .int, []⟩]
  ⟨⟨⟨.synthetic, "##any", [], any, any⟩, [], []⟩, guard, [⟨.synthetic, .assert guard⟩]⟩

/-- Calls `q` with `k` and with `p(k + 1)`. -/
def callsQ : Implementation :=
  let k : Expr := .ident ⟨4, 1⟩ ⟨"k", some ⟨5⟩⟩
  let next : Expr := .apply ⟨9, 5⟩ (.binary .add) [k, .literal ⟨13, 1⟩ (.int 1)]
  let found : Expr := .apply ⟨7, 8⟩ (.call "p" (some ⟨9⟩)) [next]
  ⟨⟨.synthetic, "main", [], [], []⟩, [], [⟨"entry", [⟨⟨0, 16⟩, .call "q" none [k, found] []⟩]⟩]⟩

example : ∃ waivers site σ rebuilt,
    assertsP.weave {} Attributes.containedIn callsQ = .ok (waivers, [site]) ∧
      site.outcome = .ok σ ∧ assertsP.inserted σ = .ok [⟨.synthetic, .assert rebuilt⟩] ∧
      rebuilt.text = "p((k + 1))" :=
  ⟨_, _, _, _, rfl, rfl, rfl, rfl⟩

end Aspect

end Graft
