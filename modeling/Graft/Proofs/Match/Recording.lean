import Graft.Match.Basic

/-!
# Recording of pairings

Recording compares each pairing with what is already recorded, and yet whether it succeeds depends on
the pairings two by two (`exists_recordAll_iff`): a first capture speaks for all later ones because
similarity is an equivalence. What is recorded in the end is the first capture under each handle and
each name.
-/

namespace Graft

/-- A computation in two stages gives a result when both stages do. -/
theorem bind_eq_ok_iff {ε α β : Type} {first : Except ε α} {next : α → Except ε β} {b : β} :
    (first >>= next) = .ok b ↔ ∃ a, first = .ok a ∧ next a = .ok b := by
  cases first with
  | error e =>
    refine ⟨?_, ?_⟩
    · intro h
      cases h
    · rintro ⟨a, ha, -⟩
      cases ha
  | ok a =>
    refine ⟨?_, ?_⟩
    · intro h
      exact ⟨a, rfl, h⟩
    · rintro ⟨a', ha, h⟩
      cases ha
      exact h

namespace Pairing

/-- The expression that a pairing captures for a handle. -/
def value? : Pairing → Handle → Option Expr
  | .capture handle' _ subject, handle => if handle' = handle then some subject else none
  | .symbols _ _, _ => none

/-- The symbol that a pairing captures for a name. Only user functions capture. -/
def function? : Pairing → String → Option Symbol
  | .capture _ _ _, _ => none
  | .symbols pattern subject, name =>
    if pattern.isUser = true ∧ pattern.name = name then some subject else none

theorem value?_eq_some_iff {pairing : Pairing} {handle : Handle} {expr : Expr} :
    pairing.value? handle = some expr ↔ ∃ name, pairing = .capture handle name expr := by
  cases pairing with
  | capture handle' name subject =>
    simp only [value?, Option.ite_none_right_eq_some, Option.some.injEq, capture.injEq]
    refine ⟨?_, ?_⟩
    · rintro ⟨rfl, rfl⟩
      exact ⟨name, rfl, rfl, rfl⟩
    · rintro ⟨_, rfl, -, rfl⟩
      exact ⟨rfl, rfl⟩
  | symbols pattern subject => simp [value?]

theorem function?_eq_some_iff {pairing : Pairing} {name : String} {symbol : Symbol} :
    pairing.function? name = some symbol ↔
      ∃ pattern, pairing = .symbols pattern symbol ∧ pattern.isUser = true ∧ pattern.name = name := by
  cases pairing with
  | capture handle name' subject => simp [function?]
  | symbols pattern subject =>
    simp only [function?, Option.ite_none_right_eq_some, Option.some.injEq, symbols.injEq]
    refine ⟨?_, ?_⟩
    · rintro ⟨⟨huser, hname⟩, rfl⟩
      exact ⟨pattern, ⟨rfl, rfl⟩, huser, hname⟩
    · rintro ⟨_, ⟨rfl, rfl⟩, huser, hname⟩
      exact ⟨⟨huser, hname⟩, rfl⟩

/-- What an earlier pairing asks of a later one. A symbol that is not a user function is not
captured and asks for nothing. -/
def Compatible (strict : Bool) : Pairing → Pairing → Prop
  | .capture handle _ subject, .capture handle' _ subject' =>
    handle = handle' → subject.similar subject' = true
  | .symbols pattern subject, .symbols pattern' subject' =>
    strict = true → pattern.isUser = true → pattern.name = pattern'.name → subject = subject'
  | _, _ => True

end Pairing

namespace Subst

open Pairing

/-! ## One pairing -/

/-- What a substitution asks of the next pairing. -/
def Accepts (strict : Bool) (σ : Subst) : Pairing → Prop
  | .capture handle _ subject =>
    ∀ first, σ.value? handle = some first → first.similar subject = true
  | .symbols pattern subject =>
    strict = true → ∀ first, σ.function? pattern.name = some first → first = subject

theorem accepts_empty (strict : Bool) (pairing : Pairing) : empty.Accepts strict pairing := by
  cases pairing with
  | capture handle name subject =>
    intro first hfirst
    rw [value?_empty] at hfirst
    cases hfirst
  | symbols pattern subject =>
    intro _ first hfirst
    rw [function?_empty] at hfirst
    cases hfirst

theorem exists_record_iff {strict : Bool} {σ : Subst} {pairing : Pairing} :
    (∃ τ, σ.record strict pairing = .ok τ) ↔ σ.Accepts strict pairing := by
  cases pairing with
  | capture handle name subject =>
    simp only [record, Accepts]
    cases σ.value? handle with
    | none => simp
    | some first => by_cases h : first.similar subject = true <;> simp [h]
  | symbols pattern subject =>
    simp only [record, Accepts]
    cases σ.function? pattern.name with
    | none => simp
    | some first =>
      cases strict with
      | false => simp
      | true => by_cases h : first = subject <;> simp [h]

/-- A recorded substitution keeps what it had and adds what the pairing captures. -/
theorem value?_record {strict : Bool} {σ τ : Subst} {pairing : Pairing}
    (h : σ.record strict pairing = .ok τ) (handle : Handle) :
    τ.value? handle = (σ.value? handle).or (pairing.value? handle) := by
  cases pairing with
  | capture handle' name subject =>
    simp only [record] at h
    cases hfirst : σ.value? handle' with
    | none =>
      simp only [hfirst, Except.ok.injEq] at h
      rw [← h, value?_bind, Pairing.value?]
      by_cases heq : handle' = handle
      · rw [if_pos heq, if_pos heq, ← heq, hfirst, Option.none_or]
      · rw [if_neg heq, if_neg heq, Option.or_none]
    | some first =>
      simp only [hfirst] at h
      split at h
      · cases h
        rw [Pairing.value?]
        by_cases heq : handle' = handle
        · rw [← heq, hfirst, Option.some_or]
        · rw [if_neg heq, Option.or_none]
      · cases h
  | symbols pattern subject =>
    simp only [record] at h
    rw [Pairing.value?, Option.or_none]
    cases hfirst : σ.function? pattern.name with
    | none =>
      simp only [hfirst, Except.ok.injEq] at h
      rw [← h]
      split <;> rfl
    | some first =>
      simp only [hfirst] at h
      split at h
      · cases h
      · cases h
        rfl

theorem function?_record {strict : Bool} {σ τ : Subst} {pairing : Pairing}
    (h : σ.record strict pairing = .ok τ) (name : String) :
    τ.function? name = (σ.function? name).or (pairing.function? name) := by
  cases pairing with
  | capture handle name' subject =>
    simp only [record] at h
    rw [Pairing.function?, Option.or_none]
    cases hfirst : σ.value? handle with
    | none =>
      simp only [hfirst, Except.ok.injEq] at h
      rw [← h]
      rfl
    | some first =>
      simp only [hfirst] at h
      split at h
      · cases h
        rfl
      · cases h
  | symbols pattern subject =>
    simp only [record] at h
    cases hfirst : σ.function? pattern.name with
    | none =>
      simp only [hfirst, Except.ok.injEq] at h
      rw [← h, Pairing.function?]
      by_cases huser : pattern.isUser = true
      · rw [if_pos huser, function?_bindFunction]
        by_cases heq : pattern.name = name
        · rw [if_pos heq, if_pos ⟨huser, heq⟩, ← heq, hfirst, Option.none_or]
        · rw [if_neg heq, if_neg fun hboth => heq hboth.2, Option.or_none]
      · rw [if_neg huser, if_neg fun hboth => huser hboth.1, Option.or_none]
    | some first =>
      simp only [hfirst] at h
      split at h
      · cases h
      · cases h
        rw [Pairing.function?]
        by_cases heq : pattern.name = name
        · rw [← heq, hfirst, Option.some_or]
        · rw [if_neg fun hboth => heq hboth.2, Option.or_none]

/-- Recording a pairing asks of later ones what the pairing itself asks of them, and no more. -/
theorem accepts_record_iff {strict : Bool} {σ τ : Subst} {pairing later : Pairing}
    (h : σ.record strict pairing = .ok τ) :
    τ.Accepts strict later ↔ σ.Accepts strict later ∧ pairing.Compatible strict later := by
  have haccepts : σ.Accepts strict pairing := exists_record_iff.mp ⟨τ, h⟩
  cases later with
  | capture handle' name' subject' =>
    simp only [Accepts, value?_record h]
    cases pairing with
    | symbols pattern subject => simp [Pairing.value?, Compatible]
    | capture handle name subject =>
      simp only [Pairing.value?, Compatible]
      by_cases heq : handle = handle'
      · subst heq
        cases hfirst : σ.value? handle with
        | none => simp
        | some first =>
          -- the first capture and the repeated one are similar to the same expressions
          have hsimilar := Expr.similar_congr_left (haccepts first hfirst) subject'
          simp [hsimilar]
      · simp [heq]
  | symbols pattern' subject' =>
    simp only [Accepts, function?_record h]
    cases pairing with
    | capture handle name subject => simp [Pairing.function?, Compatible]
    | symbols pattern subject =>
      simp only [Pairing.function?, Compatible]
      by_cases heq : pattern.name = pattern'.name
      · cases hfirst : σ.function? pattern'.name with
        | none => by_cases huser : pattern.isUser = true <;> simp [huser, heq]
        | some first =>
          -- in strict mode the pairing was accepted because it repeats the first symbol
          have hsame : strict = true → first = subject := fun hstrict =>
            haccepts hstrict first (by rw [heq]; exact hfirst)
          refine ⟨?_, ?_⟩
          · intro hlater
            refine ⟨fun hstrict e he => hlater hstrict e (by simpa using he), ?_⟩
            intro hstrict _ _
            rw [← hsame hstrict]
            exact hlater hstrict first rfl
          · rintro ⟨hlater, -⟩ hstrict e he
            exact hlater hstrict e (by simpa using he)
      · simp [heq]

/-! ## All pairings -/

theorem exists_recordAll_iff_of {strict : Bool} (pairings : List Pairing) : ∀ σ : Subst,
    (∃ τ, σ.recordAll strict pairings = .ok τ) ↔
      (∀ pairing ∈ pairings, σ.Accepts strict pairing) ∧ pairings.Pairwise (Compatible strict) := by
  induction pairings with
  | nil =>
    intro σ
    exact ⟨fun _ => ⟨fun _ h => (nomatch h), List.Pairwise.nil⟩, fun _ => ⟨σ, rfl⟩⟩
  | cons pairing rest ih =>
    intro σ
    rw [List.forall_mem_cons, List.pairwise_cons]
    refine ⟨?_, ?_⟩
    · -- what `ρ` accepts of the rest, `σ` accepts too, and it is compatible with the first
      rintro ⟨τ, hτ⟩
      rcases bind_eq_ok_iff.mp hτ with ⟨ρ, hρ, hrest⟩
      rcases (ih ρ).mp ⟨τ, hrest⟩ with ⟨haccepts, hpairwise⟩
      have hboth := fun q hq => (accepts_record_iff hρ).mp (haccepts q hq)
      exact ⟨⟨exists_record_iff.mp ⟨ρ, hρ⟩, fun q hq => (hboth q hq).1⟩,
        fun q hq => (hboth q hq).2, hpairwise⟩
    · rintro ⟨⟨hfirst, haccepts⟩, hcompatible, hpairwise⟩
      rcases exists_record_iff.mpr hfirst with ⟨ρ, hρ⟩
      have hrest : ∀ q ∈ rest, ρ.Accepts strict q := fun q hq =>
        (accepts_record_iff hρ).mpr ⟨haccepts q hq, hcompatible q hq⟩
      rcases (ih ρ).mpr ⟨hrest, hpairwise⟩ with ⟨τ, hτ⟩
      exact ⟨τ, bind_eq_ok_iff.mpr ⟨ρ, hρ, hτ⟩⟩

/-- Recording succeeds when every pairing is compatible with all later ones. -/
theorem exists_recordAll_iff {strict : Bool} {pairings : List Pairing} :
    (∃ τ, empty.recordAll strict pairings = .ok τ) ↔ pairings.Pairwise (Compatible strict) := by
  rw [exists_recordAll_iff_of]
  exact and_iff_right fun pairing _ => accepts_empty strict pairing

/-- What is recorded for a handle is its first capture. -/
theorem value?_recordAll_of {strict : Bool} {pairings : List Pairing} {τ : Subst} :
    ∀ {σ : Subst}, σ.recordAll strict pairings = .ok τ → ∀ handle,
      τ.value? handle = (σ.value? handle).or (pairings.findSome? (·.value? handle)) := by
  induction pairings with
  | nil =>
    intro σ h handle
    cases h
    simp
  | cons pairing rest ih =>
    intro σ h handle
    rcases bind_eq_ok_iff.mp h with ⟨ρ, hρ, hrest⟩
    rw [ih hrest, value?_record hρ, Option.or_assoc, List.findSome?_cons]
    cases pairing.value? handle <;> simp

/-- What is recorded for a name is the first symbol that a user function of that name faces. -/
theorem function?_recordAll_of {strict : Bool} {pairings : List Pairing} {τ : Subst} :
    ∀ {σ : Subst}, σ.recordAll strict pairings = .ok τ → ∀ name,
      τ.function? name = (σ.function? name).or (pairings.findSome? (·.function? name)) := by
  induction pairings with
  | nil =>
    intro σ h name
    cases h
    simp
  | cons pairing rest ih =>
    intro σ h name
    rcases bind_eq_ok_iff.mp h with ⟨ρ, hρ, hrest⟩
    rw [ih hrest, function?_record hρ, Option.or_assoc, List.findSome?_cons]
    cases pairing.function? name <;> simp

/-! ## What is recorded, and of what -/

variable {strict : Bool} {pairings : List Pairing} {σ : Subst}

theorem mem_of_value?_recordAll (h : empty.recordAll strict pairings = .ok σ) {handle : Handle}
    {expr : Expr} (hvalue : σ.value? handle = some expr) :
    ∃ name, .capture handle name expr ∈ pairings := by
  rw [value?_recordAll_of h, value?_empty, Option.none_or] at hvalue
  rcases List.exists_of_findSome?_eq_some hvalue with ⟨pairing, hmem, hpairing⟩
  rcases Pairing.value?_eq_some_iff.mp hpairing with ⟨name, rfl⟩
  exact ⟨name, hmem⟩

theorem mem_of_function?_recordAll (h : empty.recordAll strict pairings = .ok σ) {name : String}
    {symbol : Symbol} (hfunction : σ.function? name = some symbol) :
    ∃ pattern, .symbols pattern symbol ∈ pairings ∧ pattern.isUser = true ∧
      pattern.name = name := by
  rw [function?_recordAll_of h, function?_empty, Option.none_or] at hfunction
  rcases List.exists_of_findSome?_eq_some hfunction with ⟨pairing, hmem, hpairing⟩
  rcases Pairing.function?_eq_some_iff.mp hpairing with ⟨pattern, rfl, huser, hname⟩
  exact ⟨pattern, hmem, huser, hname⟩

/-- What pairings show of themselves is related in any order, if it is related for earlier and later
ones by a reflexive and symmetric relation. -/
theorem forall_of_pairwise {α : Type} {shown : Pairing → Option α} {R : α → α → Prop}
    (hrefl : ∀ a, R a a) (hsymm : ∀ {a b}, R a b → R b a)
    (h : pairings.Pairwise fun p q => ∀ a b, shown p = some a → shown q = some b → R a b)
    {p q : Pairing} (hp : p ∈ pairings) (hq : q ∈ pairings) {a b : α} (ha : shown p = some a)
    (hb : shown q = some b) : R a b := by
  -- a pairing shows one thing, so it is related to itself by reflexivity
  have hself : ∀ p ∈ pairings, ∀ a b, shown p = some a → shown p = some b → R a b := by
    intro p _ a b ha hb
    rw [ha, Option.some.injEq] at hb
    rw [← hb]
    exact hrefl a
  exact List.Pairwise.forall_of_forall_of_flip hself h
    (h.imp fun hpq a b ha hb => hsymm (hpq b a hb ha)) hp hq a b ha hb

/-- Captures under one handle are similar, whichever comes first. -/
theorem similar_of_compatible (h : pairings.Pairwise (Compatible strict)) {handle : Handle}
    {name name' : String} {expr expr' : Expr} (hmem : .capture handle name expr ∈ pairings)
    (hmem' : .capture handle name' expr' ∈ pairings) : expr.similar expr' = true := by
  have hearlier : pairings.Pairwise fun p q => ∀ a b, p.value? handle = some a →
      q.value? handle = some b → a.similar b = true := by
    refine h.imp ?_
    intro p q hpq a b ha hb
    rcases value?_eq_some_iff.mp ha with ⟨_, rfl⟩
    rcases value?_eq_some_iff.mp hb with ⟨_, rfl⟩
    exact hpq rfl
  exact forall_of_pairwise Expr.similar_refl Expr.similar_symm hearlier hmem hmem'
    (value?_eq_some_iff.mpr ⟨name, rfl⟩) (value?_eq_some_iff.mpr ⟨name', rfl⟩)

/-- In strict mode the user functions of one name face one symbol. -/
theorem eq_of_compatible (h : pairings.Pairwise (Compatible true)) {pattern pattern' : Symbol}
    {symbol symbol' : Symbol} (hmem : .symbols pattern symbol ∈ pairings)
    (hmem' : .symbols pattern' symbol' ∈ pairings) (huser : pattern.isUser = true)
    (huser' : pattern'.isUser = true) (hname : pattern.name = pattern'.name) :
    symbol = symbol' := by
  have hearlier : pairings.Pairwise fun p q => ∀ a b, p.function? pattern.name = some a →
      q.function? pattern.name = some b → a = b := by
    refine h.imp ?_
    intro p q hpq a b ha hb
    rcases function?_eq_some_iff.mp ha with ⟨_, rfl, hp, hpname⟩
    rcases function?_eq_some_iff.mp hb with ⟨_, rfl, -, hqname⟩
    exact hpq rfl hp (hpname.trans hqname.symm)
  exact forall_of_pairwise (R := Eq) (fun _ => rfl) Eq.symm hearlier hmem hmem'
    (function?_eq_some_iff.mpr ⟨pattern, rfl, huser, rfl⟩)
    (function?_eq_some_iff.mpr ⟨pattern', rfl, huser', hname.symm⟩)

/-- A capture is recorded, if not itself then by an earlier one that is similar to it. -/
theorem value?_of_mem (h : empty.recordAll strict pairings = .ok σ) {handle : Handle}
    {name : String} {expr : Expr} (hmem : .capture handle name expr ∈ pairings) :
    ∃ name' first, .capture handle name' first ∈ pairings ∧ σ.value? handle = some first ∧
      first.similar expr = true := by
  have hsome : (pairings.findSome? (·.value? handle)).isSome := List.findSome?_isSome_iff.mpr
    ⟨_, hmem, Option.isSome_of_mem (value?_eq_some_iff.mpr ⟨name, rfl⟩)⟩
  rcases Option.isSome_iff_exists.mp hsome with ⟨first, hfirst⟩
  have hvalue : σ.value? handle = some first := by
    rw [value?_recordAll_of h, value?_empty, Option.none_or, hfirst]
  rcases mem_of_value?_recordAll h hvalue with ⟨name', hmem'⟩
  have hpairwise := exists_recordAll_iff.mp ⟨σ, h⟩
  exact ⟨name', first, hmem', hvalue, similar_of_compatible hpairwise hmem' hmem⟩

/-- A user function is recorded, if not at this place then at an earlier one of its name. -/
theorem function?_of_mem (h : empty.recordAll strict pairings = .ok σ) {pattern symbol : Symbol}
    (hmem : .symbols pattern symbol ∈ pairings) (huser : pattern.isUser = true) :
    ∃ pattern' first, .symbols pattern' first ∈ pairings ∧ pattern'.isUser = true ∧
      pattern'.name = pattern.name ∧ σ.function? pattern.name = some first := by
  have hsome : (pairings.findSome? (·.function? pattern.name)).isSome :=
    List.findSome?_isSome_iff.mpr
      ⟨_, hmem, Option.isSome_of_mem (function?_eq_some_iff.mpr ⟨pattern, rfl, huser, rfl⟩)⟩
  rcases Option.isSome_iff_exists.mp hsome with ⟨first, hfirst⟩
  have hfunction : σ.function? pattern.name = some first := by
    rw [function?_recordAll_of h, function?_empty, Option.none_or, hfirst]
  rcases mem_of_function?_recordAll h hfunction with ⟨pattern', hmem', huser', hname⟩
  exact ⟨pattern', first, hmem', huser', hname, hfunction⟩

end Subst

end Graft
