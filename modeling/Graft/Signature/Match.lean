import Graft.Options.Basic
import Graft.Program
import Graft.Text.Quoted

/-!
# Signature matching

A pattern signature stands for the signatures that carry its attributes, have its name and agree
with it on parameters. It may leave its name open by a marker in front, and it may waive either
parameter list by a sole parameter of a reserved name. Inputs are compared by kind of declaration,
and by shape of type when the options ask for it; outputs are only counted.
-/

namespace Graft

inductive Rejection where
  | missingAttributes
  | name (pattern candidate : String)
  | inputCount (expected found : Nat)
  | inputKind (index : Nat) (expected found : DeclKind)
  | inputShape (index : Nat) (expected found : Shape)
  | outputCount (expected found : Nat)
  deriving DecidableEq, Inhabited

def Rejection.text : Rejection → String
  | .missingAttributes => Text.record "MissingAttributes" []
  | .name pattern candidate =>
    Text.record "NameMismatch"
      [("pattern", Text.quote pattern), ("candidate", Text.quote candidate)]
  | .inputCount expected found =>
    Text.record "InParamCount" [("expected", toString expected), ("found", toString found)]
  | .inputKind index expected found =>
    Text.record "InParamKind"
      [("index", toString index), ("expected", expected.title), ("found", found.title)]
  | .inputShape index expected found =>
    Text.record "InParamShape"
      [("index", toString index), ("expected", expected.text), ("found", found.text)]
  | .outputCount expected found =>
    Text.record "OutParamCount" [("expected", toString expected), ("found", toString found)]

/-- The attributes of the parameters that waive a list, where a list is waived. -/
structure Waivers where
  inputs : Option Attributes
  outputs : Option Attributes
  deriving DecidableEq, Inhabited

/-- Decides whether the first attributes are contained in the second. -/
abbrev Containment := Attributes → Attributes → Bool

namespace Signature

/-- The sole parameter name that stands for any parameter list. -/
def anyParams : String := "##ANYPARAMS"

/-- Tells whether a pattern name stands for any name. -/
def nameIsOpen (name : String) : Bool := ['#', '#'].isPrefixOf name.toList

/-- The attributes of the parameter that waives a list, if the list is waived. -/
def waiver? : List Param → Option Attributes
  | [only] => if only.name = anyParams then some only.attributes else none
  | _ => none

def checkInput (options : Options) (index : Nat) (pattern candidate : Param) :
    Except Rejection Unit :=
  if pattern.kind ≠ candidate.kind then .error (.inputKind index pattern.kind candidate.kind)
  else if options.compareParamTypes ∧ pattern.ty.shape ≠ candidate.ty.shape then
    .error (.inputShape index pattern.ty.shape candidate.ty.shape)
  else .ok ()

/-- Compares input parameters pair by pair, counting from `index`. -/
def checkInputsFrom (options : Options) (index : Nat) :
    List Param → List Param → Except Rejection Unit
  | pattern :: patterns, candidate :: candidates => do
    checkInput options index pattern candidate
    checkInputsFrom options (index + 1) patterns candidates
  | _, _ => .ok ()

/-- Compares the inputs of two signatures: their number first, then pair by pair. -/
def checkInputs (options : Options) (patterns candidates : List Param) : Except Rejection Unit :=
  if patterns.length ≠ candidates.length then
    .error (.inputCount patterns.length candidates.length)
  else checkInputsFrom options 0 patterns candidates

/-- Compares the outputs of two signatures by number. -/
def checkOutputs (patterns candidates : List Param) : Except Rejection Unit :=
  if patterns.length ≠ candidates.length then
    .error (.outputCount patterns.length candidates.length)
  else .ok ()

/-- Checks one parameter list unless the pattern waives it, in which case the attributes of the
waiving parameter are handed back. -/
def checkUnlessWaived (patterns : List Param) (check : Except Rejection Unit) :
    Except Rejection (Option Attributes) :=
  match waiver? patterns with
  | some attributes => .ok (some attributes)
  | none => check.map fun _ => none

/-- Matches a pattern signature against a candidate. -/
def matchAgainst (options : Options) (contained : Containment) (pattern candidate : Signature) :
    Except Rejection Waivers := do
  unless contained pattern.attributes candidate.attributes do
    throw .missingAttributes
  unless nameIsOpen pattern.name || pattern.name == candidate.name do
    throw (.name pattern.name candidate.name)
  let inputs ← checkUnlessWaived pattern.inputs
    (checkInputs options pattern.inputs candidate.inputs)
  let outputs ← checkUnlessWaived pattern.outputs
    (checkOutputs pattern.outputs candidate.outputs)
  return ⟨inputs, outputs⟩

end Signature

/-- The parameters that carry every attribute of a waiving parameter. -/
def Param.filter (contained : Containment) (attributes : Attributes) (params : List Param) :
    List Param :=
  params.filter fun param => contained attributes param.attributes

/-- The parameters that a waived list keeps, if the list was waived. -/
def Param.kept? (contained : Containment) (waiver : Option Attributes) (params : List Param) :
    Option (List Param) :=
  waiver.map fun attributes => Param.filter contained attributes params

/-- Matches a pattern procedure against an implementation by their signatures. -/
def Procedure.matchAgainst (options : Options) (contained : Containment) (pattern : Procedure)
    (implementation : Implementation) : Except Rejection Waivers :=
  pattern.signature.matchAgainst options contained implementation.signature

end Graft
