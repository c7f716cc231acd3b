import Graft.Expr.Text
import Graft.Match.Basic
import Graft.Signature.Match
import Graft.Subst.Fault

/-!
# Events

What the library reports while it works, in the order in which things happen. Each event is a value;
its level, message and fields are what a log shows.
-/

namespace Graft

/-- How much attention an event asks for. -/
inductive Level where
  | trace
  | debug
  deriving DecidableEq, Inhabited

def Level.text : Level → String
  | .trace => "trace"
  | .debug => "debug"

inductive Event where
  | matched (pattern subject : Expr) (values functions : Nat)
  | notMatched (pattern subject : Expr) (reason : Mismatch)
  /-- A user function of a pattern was captured under a symbol other than itself. -/
  | functionCaptured (pattern subject : Symbol)
  | signatureRejected (pattern candidate : String) (reason : Rejection)
  | notAnIdentifier (fault : Fault)
  | defaultOptions (path : String)
  deriving DecidableEq, Inhabited

namespace Event

def level : Event → Level
  | .matched _ _ _ _ => .trace
  | .functionCaptured _ _ => .trace
  | _ => .debug

def message : Event → String
  | .matched _ _ _ _ => "expression matched"
  | .notMatched _ _ _ => "expression match failed"
  | .functionCaptured _ _ => "function captured"
  | .signatureRejected _ _ _ => "signature rejected"
  | .notAnIdentifier _ => "substituted target is not an identifier"
  | .defaultOptions _ => "no matcher config, using defaults"

def fields : Event → List (String × String)
  | .matched pattern subject values functions =>
    [("pattern", pattern.text), ("subject", subject.text), ("values", toString values),
      ("functions", toString functions)]
  | .notMatched pattern subject reason =>
    [("pattern", pattern.text), ("subject", subject.text), ("reason", reason.text)]
  | .functionCaptured pattern subject => [("pattern", pattern.name), ("subject", subject.name)]
  | .signatureRejected pattern candidate reason =>
    [("pattern", pattern), ("candidate", candidate), ("reason", reason.text)]
  | .notAnIdentifier fault => [("var", fault.var), ("found", fault.foundText)]
  | .defaultOptions path => [("path", path)]

end Event

/-! ## Events of matching -/

/-- The functions that recording the given pairings captures anew under another symbol, up to the
first disagreement. -/
def Subst.captureEvents (strict : Bool) (σ : Subst) : List Pairing → List Event
  | [] => []
  | pairing :: rest =>
    match σ.record strict pairing with
    | .error _ => []
    | .ok τ =>
      match pairing with
      | .symbols pattern subject =>
        if pattern ≠ subject ∧ σ.function? pattern.name = none then
          .functionCaptured pattern subject :: captureEvents strict τ rest
        else captureEvents strict τ rest
      | .capture _ _ _ => captureEvents strict τ rest

namespace Expr

/-- The events of matching a pattern against a subject: captures first, then the outcome. -/
def matchEvents (options : Options) (pattern subject : Expr) : List Event :=
  let captures :=
    Subst.empty.captureEvents options.strictFunctionCapture (align pattern subject).pairings
  match pattern.matchAgainst options subject with
  | .ok σ => captures ++ [.matched pattern subject σ.values.size σ.functions.size]
  | .error reason => captures ++ [.notMatched pattern subject reason]

/-- The events of matching a pattern against each subject in turn up to the first success. -/
def matchFirstEvents (options : Options) (pattern : Expr) : List Expr → List Event
  | [] => []
  | subject :: rest =>
    match pattern.matchAgainst options subject with
    | .ok _ => pattern.matchEvents options subject
    | .error _ => pattern.matchEvents options subject ++ matchFirstEvents options pattern rest

def matchWithinEvents (options : Options) (pattern : Expr) (command : Command) : List Event :=
  pattern.matchFirstEvents options command.candidates

end Expr

/-! ## Events of signatures and instantiation -/

def Signature.matchEvents (options : Options) (contained : Containment)
    (pattern candidate : Signature) : List Event :=
  match pattern.matchAgainst options contained candidate with
  | .ok _ => []
  | .error reason => [.signatureRejected pattern.name candidate.name reason]

/-- The event of an instantiation, which reports its fault if it has one. -/
def Fault.events {α : Type} : Except Fault α → List Event
  | .ok _ => []
  | .error fault => [.notAnIdentifier fault]

end Graft
