import Graft.Command.Parts
import Graft.Match.Basic

/-!
# The first candidate that matches

A pattern is matched against the candidates of a command one after the other. Each attempt starts
anew, so what answers is the match against the first candidate that succeeds, and against the last one
if none does (`matchWithin_answers_first`).
-/

namespace Graft

namespace Expr

variable {options : Options} {pattern subject : Expr} {before : List Expr} {σ : Subst}

/-- Candidates that fail are passed over, and nothing of them is left but the last mismatch, which a
further candidate replaces. -/
theorem matchFirst_append_cons
    (hbefore : ∀ earlier ∈ before, ∃ mismatch, pattern.matchAgainst options earlier = .error mismatch)
    (last last' : Mismatch) (subject : Expr) (after : List Expr) :
    pattern.matchFirst options last (before ++ subject :: after) =
      pattern.matchFirst options last' (subject :: after) := by
  -- the mismatch of the first attempt is the last one for the rest, so `last` varies
  induction before generalizing last with
  | nil => rfl
  | cons first rest ih =>
    obtain ⟨mismatch, hfails⟩ := hbefore first List.mem_cons_self
    have hrest := ih fun e he => hbefore e (List.mem_cons_of_mem _ he)
    rw [List.cons_append, matchFirst, hfails]
    exact hrest mismatch

theorem matchFirst_cons_of_ok (hmatch : pattern.matchAgainst options subject = .ok σ)
    (last : Mismatch) (after : List Expr) :
    pattern.matchFirst options last (subject :: after) = pattern.matchAgainst options subject := by
  rw [matchFirst, hmatch]

theorem matchFirst_singleton (last : Mismatch) (subject : Expr) :
    pattern.matchFirst options last [subject] = pattern.matchAgainst options subject := by
  rw [matchFirst]
  cases pattern.matchAgainst options subject <;> rfl

/-- The search succeeds if it meets a candidate that matches, and only then. -/
theorem exists_matchFirst_iff (subjects : List Expr) : ∀ last,
    (∃ σ, pattern.matchFirst options last subjects = .ok σ) ↔
      ∃ subject ∈ subjects, ∃ σ, pattern.matchAgainst options subject = .ok σ := by
  induction subjects with
  | nil => intro last; simp [matchFirst]
  | cons subject rest ih =>
    intro last
    simp only [matchFirst, List.mem_cons, exists_eq_or_imp]
    cases pattern.matchAgainst options subject with
    | ok σ => simp
    | error mismatch => simp [ih]

/-- Holds of expressions and what a search for the first one that a pattern matches answers: what was
captured there, or the mismatch of the last one if it matches none. -/
inductive FirstAnswers (options : Options) (pattern : Expr) : List Expr → Except Mismatch Subst → Prop
  | hit {before : List Expr} {subject : Expr} (after : List Expr) {σ : Subst}
      (fails : ∀ earlier ∈ before,
        ∃ mismatch, pattern.matchAgainst options earlier = .error mismatch)
      (captures : pattern.matchAgainst options subject = .ok σ) :
      FirstAnswers options pattern (before ++ subject :: after) (.ok σ)
  | miss {before : List Expr} {subject : Expr} {mismatch : Mismatch}
      (fails : ∀ earlier ∈ before,
        ∃ mismatch, pattern.matchAgainst options earlier = .error mismatch)
      (last : pattern.matchAgainst options subject = .error mismatch) :
      FirstAnswers options pattern (before ++ [subject]) (.error mismatch)
  | none : FirstAnswers options pattern [] (.error .noCandidate)

/-- A further expression in front that the pattern does not match changes no answer, unless it is the
only one. -/
theorem FirstAnswers.cons {subjects : List Expr} {outcome : Except Mismatch Subst}
    {mismatch : Mismatch} (h : FirstAnswers options pattern subjects outcome)
    (hsubjects : subjects ≠ []) (hfails : pattern.matchAgainst options subject = .error mismatch) :
    FirstAnswers options pattern (subject :: subjects) outcome := by
  cases h with
  | hit after fails captures =>
    exact .hit after (List.forall_mem_cons.mpr ⟨⟨mismatch, hfails⟩, fails⟩) captures
  | miss fails last => exact .miss (List.forall_mem_cons.mpr ⟨⟨mismatch, hfails⟩, fails⟩) last
  | none => exact absurd rfl hsubjects

theorem firstAnswers_matchFirst (subjects : List Expr) :
    FirstAnswers options pattern subjects (pattern.matchFirst options .noCandidate subjects) := by
  induction subjects with
  | nil => exact .none
  | cons subject rest ih =>
    cases hanswer : pattern.matchAgainst options subject with
    | ok σ =>
      rw [matchFirst_cons_of_ok hanswer, hanswer]
      exact .hit rest (List.forall_mem_nil _) hanswer
    | error mismatch =>
      cases rest with
      | nil =>
        rw [matchFirst_singleton, hanswer]
        exact .miss (List.forall_mem_nil _) hanswer
      | cons next rest =>
        have hpassed := matchFirst_append_cons
          (List.forall_mem_singleton.mpr ⟨mismatch, hanswer⟩) .noCandidate .noCandidate next rest
        rw [List.singleton_append] at hpassed
        rw [hpassed]
        exact ih.cons (List.cons_ne_nil next rest) hanswer

theorem firstAnswers_iff {subjects : List Expr} {outcome : Except Mismatch Subst} :
    FirstAnswers options pattern subjects outcome ↔
      pattern.matchFirst options .noCandidate subjects = outcome := by
  refine ⟨fun h => ?_, fun h => h ▸ firstAnswers_matchFirst subjects⟩
  cases h with
  | hit after fails captures =>
    rw [matchFirst_append_cons fails .noCandidate .noCandidate, matchFirst_cons_of_ok captures,
      captures]
  | miss fails last =>
    rw [matchFirst_append_cons fails .noCandidate .noCandidate, matchFirst_singleton, last]
  | none => rfl

/-- The candidates of a command are the expressions that it evaluates for their value: its guard, its
right-hand sides or its inputs, in order. A pattern matches within a command exactly if it matches one
of the candidates, and the answer is then that of the first one that it matches, whatever was captured
in those before. If it matches none, the answer is that of the last one. Only the candidates count:
neither the targets and their indices, nor outputs and callee of a call, nor spans of commands have a
say. -/
theorem matchWithin_answers_first (options : Options) (pattern : Expr) (command : Command) :
    (∀ exprs, command.candidates = exprs ↔ command.action.Evaluates exprs) ∧
    ((∃ σ, pattern.matchWithin options command = .ok σ) ↔
      ∃ subject ∈ command.candidates, ∃ σ, pattern.matchAgainst options subject = .ok σ) ∧
    (∀ before subject after σ, command.candidates = before ++ subject :: after →
      (∀ earlier ∈ before, ∃ mismatch, pattern.matchAgainst options earlier = .error mismatch) →
      pattern.matchAgainst options subject = .ok σ →
        pattern.matchWithin options command = pattern.matchAgainst options subject) ∧
    (∀ before subject, command.candidates = before ++ [subject] →
      (∀ candidate ∈ command.candidates,
        ∃ mismatch, pattern.matchAgainst options candidate = .error mismatch) →
        pattern.matchWithin options command = pattern.matchAgainst options subject) ∧
    (command.candidates = [] → pattern.matchWithin options command = .error .noCandidate) ∧
    ∀ span span' action action', action.SameValues action' →
      pattern.matchWithin options ⟨span, action⟩ = pattern.matchWithin options ⟨span', action'⟩ := by
  refine ⟨command.candidates_eq_iff, exists_matchFirst_iff _ _, ?_, ?_, ?_, ?_⟩
  · intro before subject after σ hcandidates hbefore hmatch
    rw [matchWithin, hcandidates, matchFirst_append_cons hbefore .noCandidate .noCandidate,
      matchFirst_cons_of_ok hmatch]
  · intro before subject hcandidates hfail
    have hbefore : ∀ earlier ∈ before,
        ∃ mismatch, pattern.matchAgainst options earlier = .error mismatch := by
      intro earlier hearlier
      refine hfail earlier ?_
      rw [hcandidates]
      exact List.mem_append_left _ hearlier
    rw [matchWithin, hcandidates, matchFirst_append_cons hbefore .noCandidate .noCandidate,
      matchFirst_singleton]
  · intro hcandidates
    rw [matchWithin, hcandidates, matchFirst]
  · intro span span' action action' hsame
    rw [matchWithin, matchWithin, hsame.candidates_eq span span']

/-- `x == x`. -/
def equalToItself : Expr :=
  .apply .synthetic (.binary .eq) [.ident .synthetic ⟨"x", some ⟨1⟩⟩,
    .ident .synthetic ⟨"x", some ⟨1⟩⟩]

/-- `p, q := 1 == 2, 3 == 3`. -/
def twoComparisons : Command :=
  let compared (left right : Int) : Expr := .apply .synthetic (.binary .eq)
    [.literal .synthetic (.int left), .literal .synthetic (.int right)]
  ⟨.synthetic, .assign [(.variable .synthetic ⟨"p", some ⟨2⟩⟩, compared 1 2),
    (.variable .synthetic ⟨"q", some ⟨3⟩⟩, compared 3 3)]⟩

/-- The first right-hand side fails after `x` has captured `1`; the second one binds it to `3`. -/
theorem matchWithin_answers_first_second : ∃ σ,
    equalToItself.matchWithin {} twoComparisons = .ok σ ∧
      σ.value? ⟨1⟩ = some (.literal .synthetic (.int 3)) := by
  have hanswer := (matchWithin_answers_first {} equalToItself twoComparisons).2.2.1
    [_] _ [] _ rfl (fun earlier hearlier => ⟨.inconsistentBinding "x", ?_⟩) rfl
  · exact ⟨_, hanswer, rfl⟩
  · rw [List.mem_singleton.mp hearlier]
    rfl

end Expr

end Graft
