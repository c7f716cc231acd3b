import Graft.Handle

/-!
# Function symbols

What an application applies: an operator, one of the map and conditional forms, or a named function.
Operators and named functions share one space of names, which is why the name alone does not tell
them apart.
-/

namespace Graft

inductive UnaryOp where
  | neg
  | not
  deriving DecidableEq, Inhabited

inductive BinaryOp where
  | add
  | sub
  | mul
  | div
  | mod
  | eq
  | ne
  | lt
  | gt
  | le
  | ge
  | and
  | or
  | implies
  | iff
  deriving DecidableEq, Inhabited

def UnaryOp.sign : UnaryOp → String
  | .neg => "-"
  | .not => "!"

def BinaryOp.sign : BinaryOp → String
  | .add => "+"
  | .sub => "-"
  | .mul => "*"
  | .div => "div"
  | .mod => "mod"
  | .eq => "=="
  | .ne => "!="
  | .lt => "<"
  | .gt => ">"
  | .le => "<="
  | .ge => ">="
  | .and => "&&"
  | .or => "||"
  | .implies => "==>"
  | .iff => "<==>"

/-- The operator or function that an application applies. -/
inductive Symbol where
  | unary (op : UnaryOp)
  | binary (op : BinaryOp)
  /-- Reads a map at one or more indices. -/
  | mapSelect
  /-- Updates a map at one or more indices. -/
  | mapStore
  | ifThenElse
  /-- Calls a named function; `decl` is known once the name is resolved. -/
  | call (name : String) (decl : Option Handle)
  deriving DecidableEq, Inhabited

namespace Symbol

/-- The name under which a symbol is captured and renamed. -/
def name : Symbol → String
  | .unary op => op.sign
  | .binary op => op.sign
  | .mapSelect => "MapSelect"
  | .mapStore => "MapStore"
  | .ifThenElse => "if-then-else"
  | .call name _ => name

/-- Holds of calls that resolve to a declared function. -/
def isUser : Symbol → Bool
  | .call _ (some _) => true
  | _ => false

/-- Holds of calls, resolved or not. -/
def isCall : Symbol → Bool
  | .call _ _ => true
  | _ => false

theorem isCall_of_isUser {symbol : Symbol} (h : symbol.isUser = true) : symbol.isCall = true := by
  cases symbol <;> simp_all [isUser, isCall]

/-- A call that is not resolved consists of its name. -/
theorem eq_call_none {symbol : Symbol} (hcall : symbol.isCall = true)
    (huser : symbol.isUser = false) : symbol = .call symbol.name none := by
  cases symbol with
  | call name decl =>
    cases decl with
    | none => rfl
    | some handle => cases huser
  | _ => cases hcall

end Symbol

end Graft
