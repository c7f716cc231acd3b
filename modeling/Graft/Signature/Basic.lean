import Graft.Declaration

/-!
# Signatures

Parameters and procedure signatures.
-/

namespace Graft

structure Param where
  name : String
  decl : Option Handle
  kind : DeclKind
  ty : Ty
  attributes : Attributes
  deriving DecidableEq, Inhabited

/-- The parameter that stands for a declaration of the arena. -/
def Param.ofHandle? (arena : Arena) (handle : Handle) : Option Param :=
  (arena.get? handle).map fun declaration =>
    ⟨declaration.name, some handle, declaration.kind, declaration.ty, declaration.attributes⟩

/-- A procedure's name with its attributes and its parameters. -/
structure Signature where
  span : Span
  name : String
  attributes : Attributes
  inputs : List Param
  outputs : List Param
  deriving DecidableEq, Inhabited

end Graft
