import Graft.Command.Basic
import Graft.Signature.Basic

/-!
# Programs

Procedures with their contracts, and implementations with their blocks of commands. Where a name
occurs twice, the first occurrence answers.
-/

namespace Graft

/-- A signature with its contract. -/
structure Procedure where
  signature : Signature
  requires : List Expr
  ensures : List Expr
  deriving DecidableEq, Inhabited

/-- Commands under a label. -/
structure Block where
  label : String
  commands : List Command
  deriving DecidableEq, Inhabited

/-- A signature with a body. -/
structure Implementation where
  signature : Signature
  locals : List Handle
  blocks : List Block
  deriving DecidableEq, Inhabited

def Implementation.commands (implementation : Implementation) : List Command :=
  implementation.blocks.flatMap Block.commands

/-- A whole program with the arena of its declarations. -/
structure Program where
  arena : Arena
  procedures : List Procedure
  implementations : List Implementation
  deriving Inhabited

namespace Program

def procedure? (program : Program) (name : String) : Option Procedure :=
  program.procedures.find? fun procedure => procedure.signature.name == name

def implementation? (program : Program) (name : String) : Option Implementation :=
  program.implementations.find? fun implementation => implementation.signature.name == name

end Program

end Graft
