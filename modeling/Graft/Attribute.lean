import Graft.Expr.Similar

/-!
# Attributes

Annotations of declarations, parameters and signatures. One list of attributes is *contained* in
another when each of its members occurs there with the same key and similar parameters. As similarity
is equality of canonical forms, containment is inclusion of canonical forms (`containedIn_iff`).
-/

namespace Graft

inductive AttributeParam where
  | text (value : String)
  | expr (value : Expr)
  deriving DecidableEq, Inhabited

/-- Tells whether two attribute parameters agree, spans left aside. -/
def AttributeParam.similar : AttributeParam → AttributeParam → Bool
  | .text value, .text value' => value == value'
  | .expr value, .expr value' => value.similar value'
  | _, _ => false

def AttributeParam.canon : AttributeParam → AttributeParam
  | .text value => .text value
  | .expr value => .expr value.canon

theorem AttributeParam.similar_iff_canon_eq (a b : AttributeParam) :
    a.similar b = true ↔ a.canon = b.canon := by
  cases a <;> cases b <;> simp [similar, canon, Expr.similar_iff_canon_eq]

/-- A key with parameters; a flag has none. -/
structure Attribute where
  key : String
  params : List AttributeParam
  deriving DecidableEq, Inhabited

namespace Attribute

/-- Tells whether two parameter lists agree in length and position by position. -/
def similarParams : List AttributeParam → List AttributeParam → Bool
  | [], [] => true
  | param :: rest, param' :: rest' => param.similar param' && similarParams rest rest'
  | _, _ => false

/-- Tells whether two attributes have the same key and similar parameters. -/
def similar (a b : Attribute) : Bool :=
  a.key == b.key && similarParams a.params b.params

/-- An attribute with the canonical forms of its parameters. -/
def canon (attr : Attribute) : Attribute := ⟨attr.key, attr.params.map AttributeParam.canon⟩

theorem similarParams_iff (params : List AttributeParam) : ∀ params',
    similarParams params params' = true ↔
      params.map AttributeParam.canon = params'.map AttributeParam.canon := by
  induction params with
  | nil => intro params'; cases params' <;> simp [similarParams]
  | cons param rest ih =>
    intro params'
    cases params' with
    | nil => simp [similarParams]
    | cons param' rest' => simp [similarParams, AttributeParam.similar_iff_canon_eq, ih]

theorem similar_iff_canon_eq (a b : Attribute) : a.similar b = true ↔ a.canon = b.canon := by
  simp [similar, canon, similarParams_iff]

end Attribute

/-- Attributes in the order in which they were attached; keys may repeat. -/
abbrev Attributes := List Attribute

namespace Attributes

def find? (attributes : Attributes) (key : String) : Option Attribute :=
  List.find? (fun attr => attr.key == key) attributes

def push (attributes : Attributes) (attr : Attribute) : Attributes :=
  attributes ++ [attr]

/-- Tells whether each of `sub` occurs in `sup`. -/
def containedIn (sub sup : Attributes) : Bool :=
  sub.all fun attr => sup.any fun attr' => attr.similar attr'

theorem containedIn_iff (sub sup : Attributes) :
    sub.containedIn sup = true ↔ sub.map Attribute.canon ⊆ sup.map Attribute.canon := by
  have hsimilar : ∀ a b : Attribute, a.similar b = true ↔ b.canon = a.canon :=
    fun a b => (Attribute.similar_iff_canon_eq a b).trans eq_comm
  simp [containedIn, List.subset_def, hsimilar]

theorem containedIn_refl (attributes : Attributes) : attributes.containedIn attributes = true :=
  (containedIn_iff _ _).mpr (List.Subset.refl _)

theorem containedIn_trans {a b c : Attributes} (hab : a.containedIn b = true)
    (hbc : b.containedIn c = true) : a.containedIn c = true :=
  (containedIn_iff a c).mpr
    (List.Subset.trans ((containedIn_iff a b).mp hab) ((containedIn_iff b c).mp hbc))

end Attributes

end Graft
