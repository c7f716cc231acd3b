import Graft.Expr.Basic
import Graft.Text.Quoted

/-!
# Mismatches

The reasons for which an expression fails to match a pattern.
-/

namespace Graft

inductive Mismatch where
  /-- The subject has a node for which no pattern node is left. -/
  | patternExhausted
  /-- Pattern nodes are left when the subject ends. -/
  | patternLeftover (remaining : Nat)
  | nodeKind (pattern subject : NodeKind)
  | literal
  /-- A wildcard has no handle under which to capture. -/
  | unresolvedWildcard (name : String)
  | arity (expected found : Nat)
  | function (pattern subject : String)
  /-- A wildcard faces two different subtrees. -/
  | inconsistentBinding (name : String)
  /-- A pattern function faces two different symbols. -/
  | inconsistentFunction (name : String)
  | quantifier
  /-- A command has no expression to match. -/
  | noCandidate
  deriving DecidableEq, Inhabited

def Mismatch.text : Mismatch → String
  | .patternExhausted => Text.record "PatternExhausted" []
  | .patternLeftover remaining =>
    Text.record "PatternLeftover" [("remaining", toString remaining)]
  | .nodeKind pattern subject =>
    Text.record "KindMismatch"
      [("pattern", Text.quote pattern.text), ("subject", Text.quote subject.text)]
  | .literal => Text.record "LiteralMismatch" []
  | .unresolvedWildcard name => Text.record "UnresolvedWildcard" [("name", Text.quote name)]
  | .arity expected found =>
    Text.record "ArityMismatch" [("expected", toString expected), ("found", toString found)]
  | .function pattern subject =>
    Text.record "FunctionMismatch"
      [("pattern", Text.quote pattern), ("subject", Text.quote subject)]
  | .inconsistentBinding name => Text.record "InconsistentBinding" [("name", Text.quote name)]
  | .inconsistentFunction name => Text.record "InconsistentFunction" [("name", Text.quote name)]
  | .quantifier => Text.record "QuantifierMismatch" []
  | .noCandidate => Text.record "NoCandidate" []

end Graft
