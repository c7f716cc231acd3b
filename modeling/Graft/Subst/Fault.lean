import Graft.Expr.Text

/-!
# Instantiation faults

Some positions of a command name a variable that is written. Instantiation fails when the
substitution puts anything but an identifier there; the fault always points at a template and a
pattern that do not fit together.
-/

namespace Graft

inductive Position where
  | assigned
  | callOutput
  | havoced
  deriving DecidableEq, Inhabited

/-- A position that must stay a variable received another expression. -/
structure Fault where
  position : Position
  /-- The name of the template's variable. -/
  var : String
  /-- What the substitution puts in its place. -/
  found : Expr
  /-- The span of the assigned variable, or of the whole command for the other positions. -/
  span : Span
  deriving DecidableEq, Inhabited

namespace Position

/-- How a message begins that speaks of this position. -/
def noun : Position → String
  | .assigned => "assignment target"
  | .callOutput => "call output"
  | .havoced => "havoc target"

def code : Position → String
  | .assigned => "propweave::instantiate::lhs"
  | .callOutput => "propweave::instantiate::call_out"
  | .havoced => "propweave::instantiate::havoc"

def help? : Position → Option String
  | .assigned =>
    some "the property template binds an assigned variable to a non-variable expression"
  | _ => none

def caption? : Position → Option String
  | .assigned => some "assigned here"
  | _ => none

end Position

namespace Fault

/-- What reports tell of the expression that was found: its written form. -/
def foundText (fault : Fault) : String := fault.found.text

def message (fault : Fault) : String :=
  fault.position.noun ++ " `" ++ fault.var
    ++ "` must remain an identifier after substitution, got `" ++ fault.foundText ++ "`"

end Fault

end Graft
