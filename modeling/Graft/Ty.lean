/-!
# Types

Types of declarations and parameters, and their *shape*: the coarse category in which bit widths,
map domains and type names are forgotten.
-/

namespace Graft

inductive Ty where
  | bool
  | int
  | real
  | bitVector (width : Nat)
  | map (domain : List Ty) (range : Ty)
  | named (name : String)
  deriving Inhabited

inductive Shape where
  | bool
  | int
  | real
  | bitVector
  | map
  | named
  deriving DecidableEq, Inhabited

namespace Shape

/-- Place of a shape in the order of shapes. -/
def rank : Shape → Nat
  | .bool => 0
  | .int => 1
  | .real => 2
  | .bitVector => 3
  | .map => 4
  | .named => 5

instance : Ord Shape where
  compare a b := compare a.rank b.rank

def text : Shape → String
  | .bool => "Bool"
  | .int => "Int"
  | .real => "Real"
  | .bitVector => "BitVector"
  | .map => "Map"
  | .named => "Named"

end Shape

namespace Ty

/-- Induction on types: the types of a map's domain are covered by membership. -/
theorem induction {motive : Ty → Prop} (bool : motive .bool) (int : motive .int)
    (real : motive .real) (bitVector : ∀ width, motive (.bitVector width))
    (map : ∀ domain range, (∀ ty ∈ domain, motive ty) → motive range → motive (.map domain range))
    (named : ∀ name, motive (.named name)) (ty : Ty) : motive ty :=
  Ty.rec (motive_1 := motive) (motive_2 := fun tys => ∀ ty ∈ tys, motive ty)
    bool int real bitVector map named (fun _ h => nomatch h)
    (fun _ _ head tail _ h => by
      rcases List.mem_cons.mp h with rfl | h
      · exact head
      · exact tail _ h)
    ty

/-! ## Equality -/

mutual

/-- Tells whether two types are the same. -/
def beq : Ty → Ty → Bool
  | .bool, .bool => true
  | .int, .int => true
  | .real, .real => true
  | .bitVector w, .bitVector w' => w == w'
  | .map domain range, .map domain' range' => beqs domain domain' && beq range range'
  | .named name, .named name' => name == name'
  | _, _ => false

def beqs : List Ty → List Ty → Bool
  | [], [] => true
  | ty :: rest, ty' :: rest' => beq ty ty' && beqs rest rest'
  | _, _ => false

end

theorem beqs_iff_of {tys : List Ty} (h : ∀ ty ∈ tys, ∀ ty', beq ty ty' = true ↔ ty = ty') :
    ∀ tys', beqs tys tys' = true ↔ tys = tys' := by
  induction tys with
  | nil => intro tys'; cases tys' <;> simp [beqs]
  | cons ty rest ih =>
    intro tys'
    cases tys' with
    | nil => simp [beqs]
    | cons ty' rest' =>
      simp [beqs, h ty (by simp), ih (fun t ht => h t (List.mem_cons_of_mem _ ht))]

theorem beq_iff (ty : Ty) : ∀ ty', beq ty ty' = true ↔ ty = ty' := by
  induction ty using Ty.induction with
  | map domain range domainIH rangeIH =>
    intro ty'
    cases ty' <;> simp [beq, beqs_iff_of domainIH, rangeIH]
  | _ => intro ty'; cases ty' <;> simp [beq]

instance : DecidableEq Ty := fun ty ty' => decidable_of_iff _ (beq_iff ty ty')

/-! ## Shape and text -/

/-- Forgets everything about a type but its outermost former. -/
def shape : Ty → Shape
  | .bool => .bool
  | .int => .int
  | .real => .real
  | .bitVector _ => .bitVector
  | .map _ _ => .map
  | .named _ => .named

mutual

/-- A type as it is written: `bv` before a width, a map's domain in brackets before its range. -/
def text : Ty → String
  | .bool => "bool"
  | .int => "int"
  | .real => "real"
  | .bitVector width => s!"bv{width}"
  | .map domain range => "[" ++ ", ".intercalate (texts domain) ++ "]" ++ range.text
  | .named name => name

def texts : List Ty → List String
  | [] => []
  | ty :: rest => ty.text :: texts rest

end

end Ty

end Graft
