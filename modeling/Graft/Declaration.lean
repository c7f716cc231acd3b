import Graft.Attribute
import Graft.Ty

/-!
# Declarations

The arena owns every declaration of a program and hands out handles in order of allocation, as long
as there are any.
-/

namespace Graft

/-- What a declaration declares. -/
inductive DeclKind where
  | local
  | formal
  | global
  | constant
  /-- A variable bound by a quantifier. -/
  | bound
  | function
  | procedure
  deriving DecidableEq, Inhabited

namespace DeclKind

/-- Place of a kind in the order of kinds. -/
def rank : DeclKind → Nat
  | .local => 0
  | .formal => 1
  | .global => 2
  | .constant => 3
  | .bound => 4
  | .function => 5
  | .procedure => 6

instance : Ord DeclKind where
  compare a b := compare a.rank b.rank

/-- The word for a kind. -/
def text : DeclKind → String
  | .local => "local"
  | .formal => "formal"
  | .global => "global"
  | .constant => "constant"
  | .bound => "bound"
  | .function => "function"
  | .procedure => "procedure"

/-- The name of a kind in reports. -/
def title : DeclKind → String
  | .local => "Local"
  | .formal => "Formal"
  | .global => "Global"
  | .constant => "Constant"
  | .bound => "Bound"
  | .function => "Function"
  | .procedure => "Procedure"

/-- Holds of every kind but functions and procedures. -/
def isVariable : DeclKind → Bool
  | .function => false
  | .procedure => false
  | _ => true

end DeclKind

/-- A declared entity. -/
structure Declaration where
  name : String
  kind : DeclKind
  ty : Ty
  attributes : Attributes
  deriving DecidableEq, Inhabited

/-- The declarations of a program; a handle is a position. -/
structure Arena where
  declarations : Array Declaration
  deriving Inhabited

namespace Arena

/-- The arena without declarations. -/
def empty : Arena := ⟨#[]⟩

/-- Number of declarations. -/
def size (arena : Arena) : Nat := arena.declarations.size

/-- Raised when a declaration can no longer have a handle. -/
structure Exhausted where
  deriving DecidableEq

def Exhausted.message (_ : Exhausted) : String :=
  "declaration arena holds more than u32::MAX entries: TryFromIntError(())"

/-- Adds a declaration; its handle is the next free position. -/
def declare (arena : Arena) (declaration : Declaration) : Except Exhausted (Handle × Arena) :=
  if arena.size < Handle.count then
    .ok (⟨arena.size⟩, ⟨arena.declarations.push declaration⟩)
  else .error ⟨⟩

/-- The declaration behind a handle. -/
def get? (arena : Arena) (handle : Handle) : Option Declaration :=
  arena.declarations[handle.index]?

/-- The declared name behind a handle. -/
def name? (arena : Arena) (handle : Handle) : Option String :=
  (arena.get? handle).map Declaration.name

/-- All declarations with their handles, in order of allocation. -/
def toList (arena : Arena) : List (Handle × Declaration) :=
  arena.declarations.toList.zipIdx.map fun (declaration, index) => (⟨index⟩, declaration)

/-- Adds declarations in order. -/
def declareAll (arena : Arena) (declarations : List Declaration) : Except Exhausted Arena :=
  declarations.foldlM (fun arena declaration => Prod.snd <$> arena.declare declaration) arena

variable {arena extended : Arena} {declaration : Declaration} {handle : Handle}

theorem declare_of_lt (h : arena.size < Handle.count) : arena.declare declaration =
    .ok (⟨arena.size⟩, ⟨arena.declarations.push declaration⟩) :=
  if_pos h

theorem declare_of_not_lt (h : ¬ arena.size < Handle.count) :
    arena.declare declaration = .error ⟨⟩ :=
  if_neg h

theorem declare_eq_ok_iff : arena.declare declaration = .ok (handle, extended) ↔
    arena.size < Handle.count ∧ handle = ⟨arena.size⟩ ∧
      extended = ⟨arena.declarations.push declaration⟩ := by
  by_cases h : arena.size < Handle.count
  · rw [declare_of_lt h]
    simp [h, eq_comm]
  · rw [declare_of_not_lt h]
    simp [h]

/-- A handle that was handed out means the new declaration, and all others mean what they meant. -/
theorem get?_of_declare (h : arena.declare declaration = .ok (handle, extended))
    (other : Handle) :
    extended.get? other = if other = handle then some declaration else arena.get? other := by
  have hdeclared := declare_eq_ok_iff.mp h
  rw [hdeclared.2.1, hdeclared.2.2]
  show (arena.declarations.push declaration)[other.index]? = _
  have hother : other = ⟨arena.size⟩ ↔ other.index = arena.declarations.size :=
    ⟨congrArg Handle.index, congrArg Handle.mk⟩
  rw [Array.getElem?_push]
  simp only [hother]
  rfl

/-- Declarations can be added as long as there are handles for all of them, and then stand behind
those of the arena, in order. -/
theorem declareAll_eq_ok_iff (declarations : List Declaration) : ∀ {arena extended : Arena},
    arena.size ≤ Handle.count → (arena.declareAll declarations = .ok extended ↔
      arena.size + declarations.length ≤ Handle.count ∧
        extended = ⟨arena.declarations ++ declarations⟩) := by
  -- the arena grows by one declaration at a time, so it varies
  induction declarations with
  | nil =>
    intro arena extended h
    show (Except.ok arena : Except Exhausted Arena) = .ok extended ↔ _
    rw [Except.ok.injEq, eq_comm]
    simp [h]
  | cons declaration rest ih =>
    intro arena extended h
    show (Prod.snd <$> arena.declare declaration >>= fun arena => arena.declareAll rest) = _ ↔ _
    by_cases hlt : arena.size < Handle.count
    · rw [declare_of_lt hlt]
      show (⟨arena.declarations.push declaration⟩ : Arena).declareAll rest = _ ↔ _
      have hsize : (⟨arena.declarations.push declaration⟩ : Arena).size = arena.size + 1 :=
        Array.size_push declaration
      rw [ih (hsize ▸ hlt), hsize, List.length_cons, Nat.add_right_comm, Nat.add_assoc]
      simp
    · rw [declare_of_not_lt hlt]
      show (Except.error ⟨⟩ : Except Exhausted Arena) = _ ↔ _
      have hover : ¬ arena.size + (declaration :: rest).length ≤ Handle.count := by
        rw [List.length_cons]
        omega
      simp only [hover, reduceCtorEq, false_and]

end Arena

end Graft
