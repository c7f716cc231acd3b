/-!
# Matching options

The two switches of matching and their defaults.
-/

namespace Graft

structure Options where
  /-- A pattern function met twice must face the same symbol both times. -/
  strictFunctionCapture : Bool := true
  /-- Input parameters must also agree on the shape of their types. -/
  compareParamTypes : Bool := false
  deriving DecidableEq, Inhabited

end Graft
