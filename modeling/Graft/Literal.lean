/-!
# Literals

Constants of the expression language. A real keeps its decimal text, so that equality of reals is
equality of what was written.
-/

namespace Graft

inductive Literal where
  | bool (value : Bool)
  | int (value : Int)
  | bitVector (value width : Nat)
  | real (decimal : String)
  deriving DecidableEq, Inhabited

namespace Literal

/-- A literal as it is written; a bit vector shows its value and then its width. -/
def text : Literal → String
  | .bool true => "true"
  | .bool false => "false"
  | .int value => toString value
  | .bitVector value width => s!"{value}bv{width}"
  | .real decimal => decimal

end Literal

end Graft
