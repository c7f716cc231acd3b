import Graft.Proofs.Signature.Verdict
import Mathlib.Data.List.Basic

/-!
# Compatibility as a preorder

With attributes compared by key and parameters, a signature matches itself, and a match can be carried
on through a second one (`matchAgainst_preorder`). The signature in the middle must not waive a list:
it would stand for any parameters there, which the first one need not do. Filters follow along: what
carries more attributes also carries fewer.
-/

namespace Graft

namespace Signature

variable {options : Options} {contained : Containment} {a b c : Signature}

theorem AdmitsName.trans {a b c : String} (hab : AdmitsName a b) (hbc : AdmitsName b c) :
    AdmitsName a c := by
  cases hab with
  | inl hopen => exact .inl hopen
  | inr heq =>
    rw [heq]
    exact hbc

theorem AdmitsInput.trans {a b c : Param} (hab : AdmitsInput options a b)
    (hbc : AdmitsInput options b c) : AdmitsInput options a c where
  kind := hab.kind.trans hbc.kind
  shape hcompares := (hab.shape hcompares).trans (hbc.shape hcompares)

theorem AdmitsInputs.refl (params : List Param) : AdmitsInputs options params params :=
  List.forall₂_same.mpr fun _ _ => ⟨rfl, fun _ => rfl⟩

theorem AdmitsInputs.trans {a b c : List Param} (hab : AdmitsInputs options a b)
    (hbc : AdmitsInputs options b c) : AdmitsInputs options a c := by
  induction hab generalizing c with
  | nil => exact hbc
  | cons hfirst _ ih =>
    cases hbc with
    | cons hfirst' hrest' => exact .cons (hfirst.trans hfirst') (ih hrest')

theorem Compatible.refl (hcontained : ∀ attributes, contained attributes attributes = true)
    (a : Signature) : a.Compatible options contained a where
  attributes := hcontained a.attributes
  name := .inr rfl
  inputs := .inr (.refl a.inputs)
  outputs := .inr rfl

/-- A list that the first signature compares is compared in the middle as well, as it is not waived
there. -/
theorem Compatible.trans
    (hcontained : ∀ f g h, contained f g = true → contained g h = true → contained f h = true)
    (hinputs : ¬ Waived b.inputs) (houtputs : ¬ Waived b.outputs)
    (hab : a.Compatible options contained b) (hbc : b.Compatible options contained c) :
    a.Compatible options contained c where
  attributes := hcontained _ _ _ hab.attributes hbc.attributes
  name := hab.name.trans hbc.name
  inputs := hab.inputs.imp_right fun hadmits => hadmits.trans (hbc.inputs.resolve_left hinputs)
  outputs := hab.outputs.imp_right fun hlength =>
    hlength.trans (hbc.outputs.resolve_left houtputs)

theorem filter_sublist_of_containedIn {f g : Attributes} (h : f.containedIn g = true)
    (params : List Param) :
    (Param.filter Attributes.containedIn g params).Sublist
      (Param.filter Attributes.containedIn f params) :=
  List.monotone_filter_right params fun _ hparam => Attributes.containedIn_trans h hparam

/-- Matching by contained attributes is reflexive, and transitive through signatures that waive
nothing; what is handed back depends on the first signature alone. Containment of attributes is itself
reflexive and transitive, and a filter of more attributes keeps a part of what one of fewer keeps, in
the same order. -/
theorem matchAgainst_preorder (options : Options) :
    (∀ a : Signature, ∃ waivers, a.matchAgainst options Attributes.containedIn a = .ok waivers) ∧
    (∀ (a b c : Signature) (waivers waivers' : Waivers), ¬ Waived b.inputs → ¬ Waived b.outputs →
      a.matchAgainst options Attributes.containedIn b = .ok waivers →
      b.matchAgainst options Attributes.containedIn c = .ok waivers' →
        a.matchAgainst options Attributes.containedIn c = .ok waivers) ∧
    (∀ f : Attributes, f.containedIn f = true) ∧
    (∀ f g h : Attributes, f.containedIn g = true → g.containedIn h = true →
      f.containedIn h = true) ∧
    ∀ (f g : Attributes) (params : List Param), f.containedIn g = true →
      (Param.filter Attributes.containedIn g params).Sublist
        (Param.filter Attributes.containedIn f params) := by
  refine ⟨?_, ?_, Attributes.containedIn_refl, fun f g h => Attributes.containedIn_trans,
    fun f g params h => filter_sublist_of_containedIn h params⟩
  · intro a
    exact ⟨_, matchAgainst_eq_ok_iff.mpr ⟨.refl Attributes.containedIn_refl a, rfl⟩⟩
  · intro a b c waivers waivers' hinputs houtputs hab hbc
    obtain ⟨hab, hwaivers⟩ := matchAgainst_eq_ok_iff.mp hab
    obtain ⟨hbc, -⟩ := matchAgainst_eq_ok_iff.mp hbc
    have hcontained : ∀ f g h : Attributes, f.containedIn g = true → g.containedIn h = true →
        f.containedIn h = true := fun _ _ _ => Attributes.containedIn_trans
    exact matchAgainst_eq_ok_iff.mpr
      ⟨Compatible.trans hcontained hinputs houtputs hab hbc, hwaivers⟩

/-- The attribute `bound(3)`, read from the given place. -/
def boundAt (span : Span) : Attribute := ⟨"bound", [.expr (.literal span (.int 3))]⟩

/-- `{bound(3)} ##get(##ANYPARAMS {pointer}) returns (r)`: any name and any inputs. -/
def anyGetter : Signature where
  span := .synthetic
  name := "##get"
  attributes := [boundAt ⟨0, 1⟩]
  inputs := [⟨anyParams, none, .formal, .int, [⟨"pointer", []⟩]⟩]
  outputs := [⟨"r", none, .formal, .int, []⟩]

/-- `{inline, bound(3)} get(x) returns (r)`, with the given names and the bound read from the given
place. -/
def getter (input output : String) (span : Span) : Signature where
  span := .synthetic
  name := "get"
  attributes := [⟨"inline", []⟩, boundAt span]
  inputs := [⟨input, none, .formal, .int, []⟩]
  outputs := [⟨output, none, .formal, .int, []⟩]

/-- Through a getter that waives nothing, the open pattern matches every getter that this one matches,
and hands back the attributes of its own reserved parameter. -/
theorem matchAgainst_preorder_getter :
    ¬ Waived (getter "x" "r" ⟨7, 1⟩).inputs ∧ ¬ Waived (getter "x" "r" ⟨7, 1⟩).outputs ∧
      anyGetter.matchAgainst {} Attributes.containedIn (getter "y" "s" ⟨9, 1⟩) =
        .ok ⟨some [⟨"pointer", []⟩], none⟩ := by
  have hinputs : ¬ Waived (getter "x" "r" ⟨7, 1⟩).inputs := by decide
  have houtputs : ¬ Waived (getter "x" "r" ⟨7, 1⟩).outputs := by decide
  have hany : anyGetter.matchAgainst {} Attributes.containedIn (getter "x" "r" ⟨7, 1⟩) =
      .ok ⟨some [⟨"pointer", []⟩], none⟩ := rfl
  have hgetter : (getter "x" "r" ⟨7, 1⟩).matchAgainst {} Attributes.containedIn
      (getter "y" "s" ⟨9, 1⟩) = .ok ⟨none, none⟩ := rfl
  obtain ⟨-, htrans, -⟩ := matchAgainst_preorder {}
  exact ⟨hinputs, houtputs, htrans _ _ _ _ _ hinputs houtputs hany hgetter⟩

/-- A match is not carried on through a signature that waives its inputs: one input faces the waiving
parameter, and that one faces two. -/
example :
    let taking (names : List String) : Signature :=
      ⟨.synthetic, "f", [], names.map fun name => ⟨name, none, .formal, .int, []⟩, []⟩
    let answer (names names' : List String) : Except Rejection Waivers :=
      (taking names).matchAgainst {} Attributes.containedIn (taking names')
    answer ["x"] [anyParams] = .ok ⟨none, none⟩ ∧
      answer [anyParams] ["x", "y"] = .ok ⟨some [], none⟩ ∧
      answer ["x"] ["x", "y"] = .error (.inputCount 1 2) := ⟨rfl, rfl, rfl⟩

end Signature

end Graft
