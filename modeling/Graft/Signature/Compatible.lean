import Graft.Signature.Match
import Mathlib.Data.List.Forall2

/-!
# Compatible signatures

When a pattern signature stands for a candidate, said condition by condition, and for what reason it
refuses one: the first condition that fails, and among parameters the first pair that disagrees.
-/

namespace Graft

namespace Signature

/-! ## What a pattern leaves open -/

/-- A parameter list stands for any list if it consists of one parameter of the reserved name. -/
def WaivedBy (params : List Param) (only : Param) : Prop :=
  params = [only] ∧ only.name = anyParams

def Waived (params : List Param) : Prop := ∃ only, WaivedBy params only

/-- The attributes that a parameter list hands back are those of the parameter that waives it, and
there are none if the list is not waived. -/
def Exposes (params : List Param) (exposed : Option Attributes) : Prop :=
  ∀ attributes, exposed = some attributes ↔
    ∃ only, WaivedBy params only ∧ only.attributes = attributes

/-- A name stands for itself, and for every name if it starts with the marker. -/
def AdmitsName (pattern candidate : String) : Prop :=
  (∃ rest, pattern = "##" ++ rest) ∨ pattern = candidate

/-! ## Compatibility -/

/-- Two input parameters agree in kind, and in the shape of their types where types are compared. -/
structure AdmitsInput (options : Options) (pattern candidate : Param) : Prop where
  kind : pattern.kind = candidate.kind
  shape : options.compareParamTypes = true → pattern.ty.shape = candidate.ty.shape

/-- Two lists of input parameters agree in length and pair by pair. -/
def AdmitsInputs (options : Options) : List Param → List Param → Prop :=
  List.Forall₂ (AdmitsInput options)

/-- A pattern signature stands for a candidate. -/
structure Compatible (options : Options) (contained : Containment) (pattern candidate : Signature) :
    Prop where
  attributes : contained pattern.attributes candidate.attributes = true
  name : AdmitsName pattern.name candidate.name
  inputs : Waived pattern.inputs ∨ AdmitsInputs options pattern.inputs candidate.inputs
  outputs : Waived pattern.outputs ∨ pattern.outputs.length = candidate.outputs.length

/-- Two signatures have all in common that a comparison looks at. They may differ in where they stand,
in the names, handles and attributes of parameters, in types as far as these are not compared, and in
everything about outputs but their number. -/
structure Alike (options : Options) (a b : Signature) : Prop where
  attributes : a.attributes = b.attributes
  name : a.name = b.name
  inputs : AdmitsInputs options a.inputs b.inputs
  outputs : a.outputs.length = b.outputs.length

/-- Two patterns have all in common that a comparison looks at: they also waive alike, with the same
attributes. -/
structure AlikePattern (options : Options) (a b : Signature) : Prop extends Alike options a b where
  waivedInputs : ∀ exposed, Exposes a.inputs exposed ↔ Exposes b.inputs exposed
  waivedOutputs : ∀ exposed, Exposes a.outputs exposed ↔ Exposes b.outputs exposed

/-! ## Refusal -/

/-- The reason for which two input parameters in the same position disagree: their kinds if these
differ, and otherwise the shapes of their types. -/
inductive RefusesInput (options : Options) (index : Nat) (pattern candidate : Param) :
    Rejection → Prop where
  | kind (differs : pattern.kind ≠ candidate.kind) :
      RefusesInput options index pattern candidate
        (.inputKind index pattern.kind candidate.kind)
  | shape (kind : pattern.kind = candidate.kind) (compares : options.compareParamTypes = true)
      (differs : pattern.ty.shape ≠ candidate.ty.shape) :
      RefusesInput options index pattern candidate
        (.inputShape index pattern.ty.shape candidate.ty.shape)

/-- The reason for which two lists of input parameters disagree: their numbers if these differ, and
otherwise the first pair that disagrees. -/
inductive RefusesInputs (options : Options) (patterns candidates : List Param) :
    Rejection → Prop where
  | count (differs : patterns.length ≠ candidates.length) :
      RefusesInputs options patterns candidates
        (.inputCount patterns.length candidates.length)
  | param {i : Nat} {pattern candidate : Param} {reason : Rejection}
      (length : patterns.length = candidates.length)
      (agree : AdmitsInputs options (patterns.take i) (candidates.take i))
      (hpattern : patterns[i]? = some pattern) (hcandidate : candidates[i]? = some candidate)
      (refuses : RefusesInput options i pattern candidate reason) :
      RefusesInputs options patterns candidates reason

/-- The reason for which a pattern signature refuses a candidate. Each condition is looked at only if
those before it hold. -/
inductive Refuses (options : Options) (contained : Containment) (pattern candidate : Signature) :
    Rejection → Prop where
  | attributes (missing : ¬ contained pattern.attributes candidate.attributes = true) :
      Refuses options contained pattern candidate .missingAttributes
  | name (attributes : contained pattern.attributes candidate.attributes = true)
      (differs : ¬ AdmitsName pattern.name candidate.name) :
      Refuses options contained pattern candidate (.name pattern.name candidate.name)
  | inputs {reason : Rejection}
      (attributes : contained pattern.attributes candidate.attributes = true)
      (name : AdmitsName pattern.name candidate.name) (compared : ¬ Waived pattern.inputs)
      (refuses : RefusesInputs options pattern.inputs candidate.inputs reason) :
      Refuses options contained pattern candidate reason
  | outputs (attributes : contained pattern.attributes candidate.attributes = true)
      (name : AdmitsName pattern.name candidate.name)
      (inputs : Waived pattern.inputs ∨ AdmitsInputs options pattern.inputs candidate.inputs)
      (compared : ¬ Waived pattern.outputs)
      (differs : pattern.outputs.length ≠ candidate.outputs.length) :
      Refuses options contained pattern candidate
        (.outputCount pattern.outputs.length candidate.outputs.length)

/-! ## The names that are reserved -/

theorem waiver?_eq_some_iff {params : List Param} {attributes : Attributes} :
    waiver? params = some attributes ↔
      ∃ only, WaivedBy params only ∧ only.attributes = attributes := by
  match params with
  | [] => simp [waiver?, WaivedBy]
  | [only] => simp [waiver?, WaivedBy]
  | _ :: _ :: _ => simp [waiver?, WaivedBy]

theorem exposes_iff {params : List Param} {exposed : Option Attributes} :
    Exposes params exposed ↔ exposed = waiver? params := by
  rw [Exposes, Option.ext_iff]
  simp only [waiver?_eq_some_iff]

theorem waived_iff_isSome {params : List Param} : Waived params ↔ (waiver? params).isSome = true := by
  rw [Option.isSome_iff_exists]
  simp only [waiver?_eq_some_iff, Waived]
  constructor
  · intro h
    obtain ⟨only, hwaived⟩ := h
    exact ⟨_, only, hwaived, rfl⟩
  · intro h
    obtain ⟨-, only, hwaived, -⟩ := h
    exact ⟨only, hwaived⟩

instance (params : List Param) : Decidable (Waived params) :=
  decidable_of_iff _ waived_iff_isSome.symm

theorem nameIsOpen_iff {name : String} : nameIsOpen name = true ↔ ∃ rest, name = "##" ++ rest := by
  have hmarker : "##".toList = ['#', '#'] := rfl
  rw [nameIsOpen, List.isPrefixOf_iff_prefix, ← hmarker]
  constructor
  · intro h
    obtain ⟨rest, hrest⟩ := h
    refine ⟨String.ofList rest, String.toList_inj.mp ?_⟩
    rw [String.toList_append, ← hrest, @String.toList_ofList rest]
  · intro h
    obtain ⟨rest, hname⟩ := h
    exact ⟨rest.toList, by rw [hname, String.toList_append]⟩

theorem admitsName_iff {pattern candidate : String} :
    (nameIsOpen pattern || pattern == candidate) = true ↔ AdmitsName pattern candidate := by
  rw [Bool.or_eq_true, nameIsOpen_iff, beq_iff_eq, AdmitsName]

instance (pattern candidate : String) : Decidable (AdmitsName pattern candidate) :=
  decidable_of_iff _ admitsName_iff

end Signature

end Graft
