/-!
# Declaration handles

Two handles denote the same declared entity exactly when they are equal. They are ordered by index,
and that order is lawful, so that handles can key the library's ordered maps.
-/

namespace Graft

/-- Position of a declaration in the arena that owns it. -/
structure Handle where
  index : Nat
  deriving DecidableEq, Inhabited

namespace Handle

/-- How many declarations can have a handle: as many as there are words of 32 bits. -/
def count : Nat := UInt32.size

/-- Handles are ordered as their declarations were allocated. -/
instance : Ord Handle where
  compare a b := compare a.index b.index

theorem compare_def (a b : Handle) : compare a b = compare a.index b.index := rfl

instance : Std.TransOrd Handle where
  eq_swap {a b} := Std.OrientedOrd.eq_swap (a := a.index) (b := b.index)
  isLE_trans {a b c} := Std.TransOrd.isLE_trans (a := a.index) (b := b.index) (c := c.index)

instance : Std.LawfulEqOrd Handle where
  compare_self {a} := Std.ReflOrd.compare_self (a := a.index)
  eq_of_compare {a b} h := by
    cases a; cases b
    exact congrArg Handle.mk (Std.LawfulEqOrd.eq_of_compare h)

end Handle

end Graft
