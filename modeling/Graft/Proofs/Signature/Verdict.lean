import Graft.Signature.Compatible

/-!
# The verdict on a signature

Every check of signature matching passes under a condition and refuses for a reason, and the two are
told apart without running it (`Decides`). The verdict on a candidate follows from those of the checks
in their order: a pattern matches exactly the candidates that it is compatible with, and refuses every
other one for the first condition that fails (`matchAgainst_verdict`).
-/

namespace Graft

namespace Signature

/-! ## Checks and what they decide -/

/-- A check gives exactly the results that `Passes` holds of, and refuses for exactly the reasons that
`Refuses` holds of. -/
structure Decides {α : Type} (check : Except Rejection α) (Passes : α → Prop)
    (Refuses : Rejection → Prop) : Prop where
  eq_ok_iff : ∀ a, check = .ok a ↔ Passes a
  eq_error_iff : ∀ reason, check = .error reason ↔ Refuses reason

namespace Decides

variable {α β : Type} {check : Except Rejection α} {Passes Passes' : α → Prop}
  {Refuses Refuses' : Rejection → Prop}

theorem ok (a : α) : Decides (.ok a) (· = a) (fun _ => False) where
  eq_ok_iff b := by rw [Except.ok.injEq, eq_comm]
  eq_error_iff reason := by simp

theorem error (own : Rejection) :
    Decides (.error own : Except Rejection α) (fun _ => False) (· = own) where
  eq_ok_iff a := by simp
  eq_error_iff reason := by rw [Except.error.injEq, eq_comm]

theorem congr (h : Decides check Passes Refuses) (hpasses : ∀ a, Passes a ↔ Passes' a)
    (hrefuses : ∀ reason, Refuses reason ↔ Refuses' reason) : Decides check Passes' Refuses' where
  eq_ok_iff a := (h.eq_ok_iff a).trans (hpasses a)
  eq_error_iff reason := (h.eq_error_iff reason).trans (hrefuses reason)

/-- A condition that is looked at first refuses for its own reason. -/
theorem refuseIf {c : Prop} [Decidable c] (own : Rejection)
    (h : ¬ c → Decides check Passes Refuses) :
    Decides (if c then .error own else check) (fun a => ¬ c ∧ Passes a)
      (fun reason => c ∧ reason = own ∨ ¬ c ∧ Refuses reason) := by
  by_cases hc : c
  · rw [if_pos hc]
    exact (error own).congr (fun a => by simp [hc]) fun reason => by simp [hc]
  · rw [if_neg hc]
    exact (h hc).congr (fun a => by simp [hc]) fun reason => by simp [hc]

/-- Of two checks in a row the second one is looked at only if the first one passes. -/
theorem bind {next : α → Except Rejection β} {After : α → β → Prop}
    {RefusesAfter : α → Rejection → Prop} (h : Decides check Passes Refuses)
    (hnext : ∀ a, Decides (next a) (After a) (RefusesAfter a)) :
    Decides (check >>= next) (fun b => ∃ a, Passes a ∧ After a b)
      (fun reason => Refuses reason ∨ ∃ a, Passes a ∧ RefusesAfter a reason) where
  eq_ok_iff b := by
    simp only [← h.eq_ok_iff, ← (hnext _).eq_ok_iff]
    cases check with
    | error own => simp [Bind.bind, Except.bind]
    | ok a => simp [Bind.bind, Except.bind]
  eq_error_iff reason := by
    simp only [← h.eq_ok_iff, ← h.eq_error_iff, ← (hnext _).eq_error_iff]
    cases check with
    | error own => simp [Bind.bind, Except.bind]
    | ok a => simp [Bind.bind, Except.bind]

/-- A waived list is not checked, and hands back the attributes of the parameter that waives it. -/
theorem unlessWaived {check : Except Rejection Unit} {Holds : Prop}
    (h : Decides check (fun _ => Holds) Refuses) (params : List Param) :
    Decides (checkUnlessWaived params check)
      (fun exposed => Exposes params exposed ∧ (Waived params ∨ Holds))
      (fun reason => ¬ Waived params ∧ Refuses reason) := by
  simp only [exposes_iff, waived_iff_isSome, ← h.eq_ok_iff (), ← h.eq_error_iff]
  unfold checkUnlessWaived
  cases waiver? params with
  | some attributes => exact (ok _).congr (fun exposed => by simp) fun reason => by simp
  | none =>
    cases check with
    | error own => exact (error own).congr (fun exposed => by simp) fun reason => by simp [eq_comm]
    | ok _ => exact (ok none).congr (fun exposed => by simp) fun reason => by simp

end Decides

/-! ## Parameters -/

variable {options : Options}

theorem decides_checkInput (options : Options) (index : Nat) (pattern candidate : Param) :
    Decides (checkInput options index pattern candidate)
      (fun _ => AdmitsInput options pattern candidate)
      (RefusesInput options index pattern candidate) := by
  unfold checkInput
  refine (Decides.refuseIf _ fun _ => .refuseIf _ fun _ => .ok ()).congr ?_ ?_
  · intro _
    constructor
    · intro h
      obtain ⟨hkind, hshape, -⟩ := h
      exact ⟨not_not.mp hkind, fun hcompares => by_contra fun hdiffers =>
        hshape ⟨hcompares, hdiffers⟩⟩
    · intro h
      exact ⟨not_not.mpr h.kind, fun hshape => hshape.2 (h.shape hshape.1), rfl⟩
  · intro reason
    constructor
    · intro h
      rcases h with ⟨hkind, rfl⟩ | ⟨hkind, ⟨⟨hcompares, hshape⟩, rfl⟩ | ⟨-, hfalse⟩⟩
      · exact .kind hkind
      · exact .shape (not_not.mp hkind) hcompares hshape
      · exact hfalse.elim
    · intro h
      cases h with
      | kind differs => exact .inl ⟨differs, rfl⟩
      | shape kind compares differs =>
        exact .inr ⟨not_not.mpr kind, .inl ⟨⟨compares, differs⟩, rfl⟩⟩

/-- Two lists of parameters part at some position, counted from `index`, and agree before it. -/
def PartFrom (options : Options) (index : Nat) (patterns candidates : List Param)
    (reason : Rejection) : Prop :=
  ∃ i pattern candidate, AdmitsInputs options (patterns.take i) (candidates.take i) ∧
    patterns[i]? = some pattern ∧ candidates[i]? = some candidate ∧
    RefusesInput options (index + i) pattern candidate reason

/-- Lists part at their first pair, or that pair agrees and the rests part. -/
theorem partFrom_cons_iff {index : Nat} {pattern candidate : Param}
    {patterns candidates : List Param} {reason : Rejection} :
    PartFrom options index (pattern :: patterns) (candidate :: candidates) reason ↔
      RefusesInput options index pattern candidate reason ∨
        AdmitsInput options pattern candidate ∧
          PartFrom options (index + 1) patterns candidates reason := by
  have hindex : ∀ i, index + (i + 1) = index + 1 + i := fun i => by omega
  constructor
  · intro h
    obtain ⟨i, p, c, hagree, hp, hc, hrefuses⟩ := h
    -- at the first pair nothing has to agree before; at a later one the first pair does
    cases i with
    | zero =>
      cases hp
      cases hc
      exact .inl hrefuses
    | succ i =>
      obtain ⟨hfirst, hrest⟩ := List.forall₂_cons.mp hagree
      rw [hindex] at hrefuses
      exact .inr ⟨hfirst, i, p, c, hrest, hp, hc, hrefuses⟩
  · intro h
    cases h with
    | inl hrefuses => exact ⟨0, pattern, candidate, .nil, rfl, rfl, hrefuses⟩
    | inr hlater =>
      obtain ⟨hfirst, i, p, c, hrest, hp, hc, hrefuses⟩ := hlater
      rw [← hindex] at hrefuses
      exact ⟨i + 1, p, c, .cons hfirst hrest, hp, hc, hrefuses⟩

theorem decides_checkInputsFrom (options : Options) (patterns : List Param) :
    ∀ index candidates, patterns.length = candidates.length →
      Decides (checkInputsFrom options index patterns candidates)
        (fun _ => AdmitsInputs options patterns candidates)
        (PartFrom options index patterns candidates) := by
  -- for every index, as the rest of a list is counted from the next one
  induction patterns with
  | nil =>
    intro index candidates hlength
    rw [List.eq_nil_of_length_eq_zero hlength.symm]
    exact (Decides.ok ()).congr (fun _ => iff_of_true rfl .nil) fun reason => by simp [PartFrom]
  | cons pattern patterns ih =>
    intro index candidates hlength
    cases candidates with
    | nil => cases hlength
    | cons candidate candidates =>
      have hfirst := decides_checkInput options index pattern candidate
      have hrest := ih (index + 1) candidates (Nat.succ.inj hlength)
      refine (hfirst.bind fun _ => hrest).congr ?_ ?_
      · intro _
        rw [exists_const]
        exact List.forall₂_cons.symm
      · intro reason
        rw [exists_const]
        exact partFrom_cons_iff.symm

theorem decides_checkInputs (options : Options) (patterns candidates : List Param) :
    Decides (checkInputs options patterns candidates)
      (fun _ => AdmitsInputs options patterns candidates)
      (RefusesInputs options patterns candidates) := by
  unfold checkInputs
  refine (Decides.refuseIf _ fun hlength =>
    decides_checkInputsFrom options patterns 0 candidates (not_not.mp hlength)).congr ?_ ?_
  · intro _
    exact and_iff_right_of_imp fun h => not_not.mpr h.length_eq
  · intro reason
    constructor
    · intro h
      rcases h with ⟨hlength, rfl⟩ | ⟨hlength, i, p, c, hagree, hp, hc, hrefuses⟩
      · exact .count hlength
      · rw [Nat.zero_add] at hrefuses
        exact .param (not_not.mp hlength) hagree hp hc hrefuses
    · intro h
      cases h with
      | count differs => exact .inl ⟨differs, rfl⟩
      | @param i p c _ hlength hagree hp hc hrefuses =>
        rw [← Nat.zero_add i] at hrefuses
        exact .inr ⟨not_not.mpr hlength, i, p, c, hagree, hp, hc, hrefuses⟩

theorem decides_checkOutputs (patterns candidates : List Param) :
    Decides (checkOutputs patterns candidates) (fun _ => patterns.length = candidates.length)
      (fun reason => patterns.length ≠ candidates.length ∧
        reason = .outputCount patterns.length candidates.length) := by
  unfold checkOutputs
  exact (Decides.refuseIf _ fun _ => .ok ()).congr (fun _ => by simp) fun reason => by simp

/-! ## Signatures -/

theorem decides_checkParams (options : Options) (pattern candidate : Signature) :
    Decides (do
        let inputs ← checkUnlessWaived pattern.inputs
          (checkInputs options pattern.inputs candidate.inputs)
        let outputs ← checkUnlessWaived pattern.outputs
          (checkOutputs pattern.outputs candidate.outputs)
        return ⟨inputs, outputs⟩)
      (fun waivers : Waivers =>
        (Waived pattern.inputs ∨ AdmitsInputs options pattern.inputs candidate.inputs) ∧
          (Waived pattern.outputs ∨ pattern.outputs.length = candidate.outputs.length) ∧
          Exposes pattern.inputs waivers.inputs ∧ Exposes pattern.outputs waivers.outputs)
      (fun reason =>
        ¬ Waived pattern.inputs ∧ RefusesInputs options pattern.inputs candidate.inputs reason ∨
          (Waived pattern.inputs ∨ AdmitsInputs options pattern.inputs candidate.inputs) ∧
          ¬ Waived pattern.outputs ∧ pattern.outputs.length ≠ candidate.outputs.length ∧
            reason = .outputCount pattern.outputs.length candidate.outputs.length) := by
  have hinputs := (decides_checkInputs options pattern.inputs candidate.inputs).unlessWaived
    pattern.inputs
  have houtputs := (decides_checkOutputs pattern.outputs candidate.outputs).unlessWaived
    pattern.outputs
  -- what the first check hands back has no bearing on the second one
  refine (hinputs.bind fun inputs => houtputs.bind fun outputs =>
    .ok (Waivers.mk inputs outputs)).congr ?_ ?_
  · intro waivers
    constructor
    · intro h
      obtain ⟨inputs, ⟨hin, hadmitsIn⟩, outputs, ⟨hout, hadmitsOut⟩, rfl⟩ := h
      exact ⟨hadmitsIn, hadmitsOut, hin, hout⟩
    · intro h
      obtain ⟨hadmitsIn, hadmitsOut, hin, hout⟩ := h
      exact ⟨_, ⟨hin, hadmitsIn⟩, _, ⟨hout, hadmitsOut⟩, rfl⟩
  · intro reason
    constructor
    · intro h
      rcases h with hfirst | ⟨_, ⟨-, hadmitsIn⟩, hsecond | ⟨_, -, hfalse⟩⟩
      · exact .inl hfirst
      · exact .inr ⟨hadmitsIn, hsecond⟩
      · exact hfalse.elim
    · intro h
      rcases h with hfirst | ⟨hadmitsIn, hsecond⟩
      · exact .inl hfirst
      · exact .inr ⟨_, ⟨exposes_iff.mpr rfl, hadmitsIn⟩, .inl hsecond⟩

/-- Attributes are looked at before names, and names before parameters. -/
theorem matchAgainst_eq (options : Options) (contained : Containment)
    (pattern candidate : Signature) :
    pattern.matchAgainst options contained candidate =
      if ¬ contained pattern.attributes candidate.attributes = true then .error .missingAttributes
      else if ¬ AdmitsName pattern.name candidate.name then
        .error (.name pattern.name candidate.name)
      else do
        let inputs ← checkUnlessWaived pattern.inputs
          (checkInputs options pattern.inputs candidate.inputs)
        let outputs ← checkUnlessWaived pattern.outputs
          (checkOutputs pattern.outputs candidate.outputs)
        return ⟨inputs, outputs⟩ := by
  simp only [← admitsName_iff]
  unfold matchAgainst
  cases contained pattern.attributes candidate.attributes with
  | false => rfl
  | true =>
    cases nameIsOpen pattern.name || pattern.name == candidate.name <;> rfl

theorem decides_matchAgainst (options : Options) (contained : Containment)
    (pattern candidate : Signature) :
    Decides (pattern.matchAgainst options contained candidate)
      (fun waivers => pattern.Compatible options contained candidate ∧
        Exposes pattern.inputs waivers.inputs ∧ Exposes pattern.outputs waivers.outputs)
      (pattern.Refuses options contained candidate) := by
  rw [matchAgainst_eq]
  have hparams := decides_checkParams options pattern candidate
  refine (Decides.refuseIf _ fun _ => .refuseIf _ fun _ => hparams).congr ?_ ?_
  · intro waivers
    constructor
    · intro h
      obtain ⟨hattributes, hname, hadmitsIn, hadmitsOut, hin, hout⟩ := h
      exact ⟨⟨not_not.mp hattributes, not_not.mp hname, hadmitsIn, hadmitsOut⟩, hin, hout⟩
    · intro h
      obtain ⟨hcompatible, hin, hout⟩ := h
      exact ⟨not_not.mpr hcompatible.attributes, not_not.mpr hcompatible.name, hcompatible.inputs,
        hcompatible.outputs, hin, hout⟩
  · intro reason
    constructor
    · intro h
      rcases h with ⟨hattributes, rfl⟩ | ⟨hattributes, h⟩
      · exact .attributes hattributes
      · have hattributes := not_not.mp hattributes
        rcases h with ⟨hname, rfl⟩ | ⟨hname, h⟩
        · exact .name hattributes hname
        · have hname := not_not.mp hname
          rcases h with ⟨hcompared, hrefuses⟩ | ⟨hadmitsIn, hcompared, hdiffers, rfl⟩
          · exact .inputs hattributes hname hcompared hrefuses
          · exact .outputs hattributes hname hadmitsIn hcompared hdiffers
    · intro h
      cases h with
      | attributes missing => exact .inl ⟨missing, rfl⟩
      | name attributes differs =>
        exact .inr ⟨not_not.mpr attributes, .inl ⟨differs, rfl⟩⟩
      | inputs attributes name compared refuses =>
        exact .inr ⟨not_not.mpr attributes,
          .inr ⟨not_not.mpr name, .inl ⟨compared, refuses⟩⟩⟩
      | outputs attributes name inputs compared differs =>
        exact .inr ⟨not_not.mpr attributes,
          .inr ⟨not_not.mpr name, .inr ⟨inputs, compared, differs, rfl⟩⟩⟩

theorem matchAgainst_eq_ok_iff {contained : Containment} {pattern candidate : Signature}
    {waivers : Waivers} : pattern.matchAgainst options contained candidate = .ok waivers ↔
      pattern.Compatible options contained candidate ∧
        waivers = ⟨waiver? pattern.inputs, waiver? pattern.outputs⟩ := by
  obtain ⟨inputs, outputs⟩ := waivers
  rw [(decides_matchAgainst options contained pattern candidate).eq_ok_iff, exposes_iff, exposes_iff,
    Waivers.mk.injEq]

/-! ## Comparing types -/

section Types

variable {contained : Containment} {pattern candidate : Signature}

theorem AdmitsInputs.of_getElem? {patterns candidates : List Param} {i : Nat} {p c : Param}
    (h : AdmitsInputs options patterns candidates) (hp : patterns[i]? = some p)
    (hc : candidates[i]? = some c) : AdmitsInput options p c := by
  obtain ⟨hi, rfl⟩ := List.getElem?_eq_some_iff.mp hp
  obtain ⟨hi', rfl⟩ := List.getElem?_eq_some_iff.mp hc
  exact (List.forall₂_iff_get.mp h).2 i hi hi'

theorem Compatible.of_typed
    (h : pattern.Compatible { options with compareParamTypes := true } contained candidate) :
    pattern.Compatible { options with compareParamTypes := false } contained candidate where
  attributes := h.attributes
  name := h.name
  inputs := h.inputs.imp_right fun hadmits =>
    hadmits.imp fun _ _ hpair => ⟨hpair.kind, fun hcompares => nomatch hcompares⟩
  outputs := h.outputs

/-- What is refused only when types are compared is refused for a type. -/
theorem Compatible.exists_shape_of_refuses {reason : Rejection}
    (h : pattern.Compatible { options with compareParamTypes := false } contained candidate)
    (hrefuses : pattern.Refuses { options with compareParamTypes := true } contained candidate
      reason) : ∃ index expected found, reason = .inputShape index expected found := by
  -- all conditions but the one on shapes are the same with types compared, and they hold
  cases hrefuses with
  | attributes missing => exact absurd h.attributes missing
  | name _ differs => exact absurd h.name differs
  | outputs _ _ _ compared differs => exact absurd (h.outputs.resolve_left compared) differs
  | inputs _ _ compared refuses =>
    have hadmits := h.inputs.resolve_left compared
    cases refuses with
    | count differs => exact absurd hadmits.length_eq differs
    | param _ _ hp hc hpair =>
      cases hpair with
      | kind differs => exact absurd (hadmits.of_getElem? hp hc).kind differs
      | shape => exact ⟨_, _, _, rfl⟩

end Types

/-! ## What has no say -/

theorem checkInput_congr {pattern pattern' candidate candidate' : Param}
    (hpattern : AdmitsInput options pattern pattern')
    (hcandidate : AdmitsInput options candidate candidate') (index : Nat) :
    checkInput options index pattern candidate = checkInput options index pattern' candidate' := by
  unfold checkInput
  rw [hpattern.kind, hcandidate.kind]
  by_cases hcompares : options.compareParamTypes = true
  · rw [hpattern.shape hcompares, hcandidate.shape hcompares]
  · simp [hcompares]

theorem checkInputsFrom_congr {patterns patterns' : List Param}
    (hpatterns : AdmitsInputs options patterns patterns') :
    ∀ {candidates candidates'}, AdmitsInputs options candidates candidates' → ∀ index,
      checkInputsFrom options index patterns candidates =
        checkInputsFrom options index patterns' candidates' := by
  induction hpatterns with
  | nil => intro candidates candidates' _ index; rfl
  | cons hfirst hrest ih =>
    intro candidates candidates' hcandidates index
    cases hcandidates with
    | nil => rfl
    | cons hfirst' hrest' =>
      rw [checkInputsFrom, checkInputsFrom, checkInput_congr hfirst hfirst', ih hrest']

theorem checkInputs_congr {patterns patterns' candidates candidates' : List Param}
    (hpatterns : AdmitsInputs options patterns patterns')
    (hcandidates : AdmitsInputs options candidates candidates') :
    checkInputs options patterns candidates = checkInputs options patterns' candidates' := by
  unfold checkInputs
  rw [hpatterns.length_eq, hcandidates.length_eq, checkInputsFrom_congr hpatterns hcandidates]

theorem waiver?_congr {params params' : List Param}
    (h : ∀ exposed, Exposes params exposed ↔ Exposes params' exposed) :
    waiver? params = waiver? params' :=
  exposes_iff.mp ((h _).mp (exposes_iff.mpr rfl))

theorem matchAgainst_congr {contained : Containment}
    {pattern pattern' candidate candidate' : Signature}
    (hpattern : pattern.AlikePattern options pattern')
    (hcandidate : candidate.Alike options candidate') :
    pattern.matchAgainst options contained candidate =
      pattern'.matchAgainst options contained candidate' := by
  simp only [matchAgainst_eq, checkUnlessWaived, checkOutputs]
  rw [hpattern.attributes, hpattern.name, hpattern.outputs, hcandidate.attributes, hcandidate.name,
    hcandidate.outputs, waiver?_congr hpattern.waivedInputs, waiver?_congr hpattern.waivedOutputs,
    checkInputs_congr hpattern.inputs hcandidate.inputs]

/-! ## The verdict -/

/-- A pattern signature matches exactly the candidates that it is compatible with, and then hands back
the attributes of each parameter that waives a list. It refuses every other candidate for the first
condition that fails. With types compared it matches no more, matches with the same answer, and
refuses what it matched before only for the shape of a type. Where signatures stand, what their
parameters are called and carry, and what outputs are like has no say in any of this, apart from the
parameters that waive a list. -/
theorem matchAgainst_verdict (options : Options) (contained : Containment)
    (pattern candidate : Signature) :
    ((∃ waivers, pattern.matchAgainst options contained candidate = .ok waivers) ↔
      pattern.Compatible options contained candidate) ∧
    (∀ waivers, pattern.matchAgainst options contained candidate = .ok waivers →
      Exposes pattern.inputs waivers.inputs ∧ Exposes pattern.outputs waivers.outputs) ∧
    (∀ reason, pattern.matchAgainst options contained candidate = .error reason ↔
      pattern.Refuses options contained candidate reason) ∧
    (∀ waivers,
      pattern.matchAgainst { options with compareParamTypes := false } contained candidate =
          .ok waivers →
        pattern.matchAgainst { options with compareParamTypes := true } contained candidate =
            .ok waivers ∨
          ∃ index expected found,
            pattern.matchAgainst { options with compareParamTypes := true } contained candidate =
              .error (.inputShape index expected found)) ∧
    (∀ waivers,
      pattern.matchAgainst { options with compareParamTypes := true } contained candidate =
          .ok waivers →
        pattern.matchAgainst { options with compareParamTypes := false } contained candidate =
          .ok waivers) ∧
    ∀ pattern' candidate', pattern.AlikePattern options pattern' →
      candidate.Alike options candidate' →
        pattern'.matchAgainst options contained candidate' =
          pattern.matchAgainst options contained candidate := by
  have hdecides := decides_matchAgainst options contained pattern candidate
  refine ⟨?_, ?_, hdecides.eq_error_iff, ?_, ?_, ?_⟩
  · simp only [matchAgainst_eq_ok_iff, exists_and_left, exists_eq, and_true]
  · intro waivers hmatch
    exact ((hdecides.eq_ok_iff waivers).mp hmatch).2
  · intro waivers hmatch
    obtain ⟨hcompatible, hwaivers⟩ := matchAgainst_eq_ok_iff.mp hmatch
    cases htyped :
        pattern.matchAgainst { options with compareParamTypes := true } contained candidate with
    | ok waivers' =>
      -- both answers are those of the pattern's own parameters
      rw [(matchAgainst_eq_ok_iff.mp htyped).2, hwaivers]
      exact .inl rfl
    | error reason =>
      have hrefuses := ((decides_matchAgainst _ _ _ _).eq_error_iff reason).mp htyped
      obtain ⟨index, expected, found, hreason⟩ := hcompatible.exists_shape_of_refuses hrefuses
      exact .inr ⟨index, expected, found, by rw [hreason]⟩
  · intro waivers hmatch
    obtain ⟨hcompatible, hwaivers⟩ := matchAgainst_eq_ok_iff.mp hmatch
    exact matchAgainst_eq_ok_iff.mpr ⟨hcompatible.of_typed, hwaivers⟩
  · intro pattern' candidate' hpattern hcandidate
    exact (matchAgainst_congr hpattern hcandidate).symm

/-- `##read(i) returns (##ANYPARAMS {result})`. -/
def openReader : Signature where
  span := .synthetic
  name := "##read"
  attributes := []
  inputs := [⟨"i", none, .formal, .int, []⟩]
  outputs := [⟨anyParams, none, .formal, .int, [⟨"result", []⟩]⟩]

/-- `lookup(m)`, where `m` is a map. -/
def mapReader : Signature where
  span := .synthetic
  name := "lookup"
  attributes := []
  inputs := [⟨"m", none, .formal, .map [.int] .int, []⟩]
  outputs := []

/-- A number and a map are both formal parameters. They are told apart by their types alone. -/
theorem matchAgainst_verdict_map :
    openReader.matchAgainst { ({} : Options) with compareParamTypes := false }
        Attributes.containedIn mapReader = .ok ⟨none, some [⟨"result", []⟩]⟩ ∧
      ∃ index expected found,
        openReader.matchAgainst { ({} : Options) with compareParamTypes := true }
          Attributes.containedIn mapReader = .error (.inputShape index expected found) := by
  have hmatch : openReader.matchAgainst { ({} : Options) with compareParamTypes := false }
      Attributes.containedIn mapReader = .ok ⟨none, some [⟨"result", []⟩]⟩ := rfl
  have htyped := (matchAgainst_verdict {} Attributes.containedIn openReader mapReader).2.2.2.1 _
    hmatch
  refine ⟨hmatch, htyped.resolve_left ?_⟩
  intro hsame
  cases hsame

end Signature

end Graft
