import Graft.Handle

/-!
# Identifiers

A use of a declared name. Two uses mean the same thing when their handles agree; while both are
unresolved, their names decide.
-/

namespace Graft

/-- A use of a name, with the handle of its declaration once it is resolved. -/
structure Ident where
  name : String
  decl : Option Handle
  deriving DecidableEq, Inhabited

namespace Ident

/-- Tells whether two uses denote the same entity. -/
def same (a b : Ident) : Bool :=
  match a.decl, b.decl with
  | some d, some d' => d == d'
  | none, none => a.name == b.name
  | _, _ => false

/-- Forgets the name of a resolved use, which its handle makes redundant. -/
def canon (id : Ident) : Ident :=
  match id.decl with
  | some d => ⟨"", some d⟩
  | none => id

theorem canon_canon (id : Ident) : id.canon.canon = id.canon := by
  obtain ⟨name, decl⟩ := id
  cases decl <;> rfl

theorem same_iff_canon_eq (a b : Ident) : a.same b = true ↔ a.canon = b.canon := by
  obtain ⟨name, decl⟩ := a
  obtain ⟨name', decl'⟩ := b
  cases decl <;> cases decl' <;> simp [same, canon]

theorem decl_eq_of_same {a b : Ident} (h : a.same b = true) : a.decl = b.decl := by
  obtain ⟨name, decl⟩ := a
  obtain ⟨name', decl'⟩ := b
  cases decl <;> cases decl' <;> simp_all [same]

/-- Uses that denote the same entity are equal if their names go with their handles. -/
theorem eq_of_same {a b : Ident} (hsame : a.same b = true)
    (hname : a.decl.isSome = true → a.decl = b.decl → a.name = b.name) : a = b := by
  obtain ⟨name, decl⟩ := a
  obtain ⟨name', decl'⟩ := b
  cases decl <;> cases decl' <;> simp_all [same]

end Ident

end Graft
