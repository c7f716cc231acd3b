import Graft.Expr.Basic

/-!
# Written form of expressions

Operators are written between or before their operands, map reads and updates with brackets, and
every other application as a call. An operator that stands before an unusual number of arguments
also falls back to the form of a call.
-/

namespace Graft

namespace Symbol

/-- The written form of a symbol applied to arguments whose written forms are given. -/
def applied (symbol : Symbol) (args : List String) : String :=
  match symbol, args with
  | .unary op, [operand] => op.sign ++ operand
  | .binary op, [left, right] => "(" ++ left ++ " " ++ op.sign ++ " " ++ right ++ ")"
  | .mapSelect, map :: indices => map ++ "[" ++ ", ".intercalate indices ++ "]"
  | .mapStore, map :: next :: rest =>
    let indices := (next :: rest).dropLast
    let value := (next :: rest).getLast (List.cons_ne_nil next rest)
    map ++ "[" ++ ", ".intercalate indices ++ " := " ++ value ++ "]"
  | .ifThenElse, [condition, yes, no] =>
    "(if " ++ condition ++ " then " ++ yes ++ " else " ++ no ++ ")"
  | symbol, args => symbol.name ++ "(" ++ ", ".intercalate args ++ ")"

end Symbol

namespace Expr

mutual

def text : Expr → String
  | .ident _ id => id.name
  | .literal _ value => value.text
  | .apply _ symbol args => symbol.applied (texts args)
  | .quantified _ quantifier binders body =>
    "(" ++ quantifier.keyword ++ " " ++ ", ".intercalate (binders.map Ident.name) ++ " :: "
      ++ text body ++ ")"

def texts : List Expr → List String
  | [] => []
  | expr :: rest => text expr :: texts rest

end

end Expr

end Graft
