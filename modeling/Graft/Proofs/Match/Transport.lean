import Graft.Proofs.Match.Trail

/-!
# Carrying a match over

A match changes along with what it is about. A change of the pattern and of the subject that keeps
every node changes an alignment by what it does to wildcards and binders (`Transport.trail_align`). If
handles are mapped one to one and similar captures stay similar, recording a changed pairing is
recording the pairing and changing what comes of it (`Transport.record_pairing`). So are whole trails
solved alike (`Transport.solve_trail`), and two matches whose trails are the same up to a change have
the same outcome up to it (`Transport.outcome_eq_of_trail_eq`).
-/

namespace Graft

/-- A change of the handles and names that a pattern captures under, and of what it captures. -/
structure Transport where
  handle : Handle → Handle
  name : String → String
  subject : Expr → Expr
  handle_injective : Function.Injective handle
  similar_subject : ∀ expr expr', (subject expr).similar (subject expr') = expr.similar expr'

namespace Transport

/-- What is left alone is as similar as it was. -/
theorem similar_id (expr expr' : Expr) : (id expr).similar (id expr') = expr.similar expr' := rfl

variable (T : Transport)

/-- Symbols are captured under names of their own, which stay. -/
def pairing : Pairing → Pairing
  | .capture handle name subject => .capture (T.handle handle) (T.name name) (T.subject subject)
  | .symbols pattern subject => .symbols pattern subject

def subst (σ : Subst) : Subst := σ.mapEntries T.handle T.subject

/-- Only disagreeing captures are reported by the name that they were captured under. -/
def mismatch : Mismatch → Mismatch
  | .inconsistentBinding name => .inconsistentBinding (T.name name)
  | other => other

def trail (trail : Trail) : Trail :=
  ⟨trail.pairings.map T.pairing, trail.mismatch?.map T.mismatch⟩

def outcome : Except Mismatch Subst → Except Mismatch Subst
  | .error mismatch => .error (T.mismatch mismatch)
  | .ok σ => .ok (T.subst σ)

/-- Changes nothing. -/
def refl : Transport where
  handle := id
  name := id
  subject := id
  handle_injective := Function.injective_id
  similar_subject := similar_id

/-- Reasons only change along with names. -/
theorem mismatch_eq_self {T : Transport} (hname : T.name = id) (mismatch : Mismatch) :
    T.mismatch mismatch = mismatch := by
  cases mismatch with
  | inconsistentBinding name => exact congrArg Mismatch.inconsistentBinding (congrFun hname name)
  | _ => rfl

/-! ## Changed trails -/

theorem trail_andThen (first next : Trail) :
    T.trail (first.andThen next) = (T.trail first).andThen (T.trail next) := by
  obtain ⟨pairings, mismatch?⟩ := first
  cases mismatch? with
  | some mismatch => rfl
  | none => exact congrArg (Trail.mk · _) List.map_append

theorem trail_symbols (f g : Symbol) : T.trail (.symbols f g) = .symbols f g := by
  unfold Trail.symbols
  split <;> rfl

theorem pairing_refl (pairing : Pairing) : refl.pairing pairing = pairing := by
  cases pairing <;> rfl

theorem trail_refl (trail : Trail) : refl.trail trail = trail := by
  obtain ⟨pairings, mismatch?⟩ := trail
  have hpairings : pairings.map refl.pairing = pairings :=
    (List.map_congr_left fun pairing _ => pairing_refl pairing).trans (List.map_id' pairings)
  have hmismatch : mismatch?.map refl.mismatch = mismatch? := by
    cases mismatch? with
    | none => rfl
    | some mismatch => exact congrArg some (mismatch_eq_self rfl mismatch)
  rw [Transport.trail, hpairings, hmismatch]

variable {T}

/-- Lists are aligned alike, up to changes, when their members are. -/
theorem trail_alignAll {U : Transport} {f g : Expr → Expr} {patterns : List Expr}
    (h : ∀ pattern ∈ patterns, ∀ subject,
      T.trail (Expr.align (f pattern) (g subject)) = U.trail (Expr.align pattern subject)) :
    ∀ subjects, T.trail (Expr.alignAll (patterns.map f) (subjects.map g)) =
      U.trail (Expr.alignAll patterns subjects) := by
  induction patterns with
  | nil => intro subjects; rfl
  | cons pattern patterns ih =>
    intro subjects
    cases subjects with
    | nil => rfl
    | cons subject subjects =>
      have hrest := ih fun p hp => h p (List.mem_cons_of_mem _ hp)
      rw [List.map_cons, List.map_cons, Expr.alignAll, Expr.alignAll, trail_andThen, trail_andThen,
        h pattern List.mem_cons_self, hrest]

/-! ## Changed expressions -/

/-- What a change of expressions does that keeps every node and goes from node to node. -/
structure Nodewise (f : Expr → Expr) where
  span : Span → Span
  use : Ident → Ident
  binder : Ident → Ident
  ident : ∀ s id, f (.ident s id) = .ident (span s) (use id)
  literal : ∀ s value, f (.literal s value) = .literal (span s) value
  apply : ∀ s symbol args, f (.apply s symbol args) = .apply (span s) symbol (args.map f)
  quantified : ∀ s quantifier binders body, f (.quantified s quantifier binders body) =
    .quantified (span s) quantifier (binders.map binder) (f body)

def Nodewise.refl : Nodewise id where
  span := id
  use := id
  binder := id
  ident _ _ := rfl
  literal _ _ := rfl
  apply s symbol args := congrArg (Expr.apply s symbol) (List.map_id args).symm
  quantified s quantifier binders body :=
    congrArg (Expr.quantified s quantifier · body) (List.map_id binders).symm

/-- If wildcards and binders face what they faced, up to changes, so does the whole pattern: the rest
of an alignment looks at the nodes alone. -/
theorem trail_align {T U : Transport} {f g : Expr → Expr} (hf : Nodewise f) (hg : Nodewise g)
    (hcapture : ∀ wildcard subject, T.trail (.capture (hf.use wildcard) (g subject)) =
      U.trail (.capture wildcard subject))
    (hbinders : ∀ span binders binders',
      T.trail (.binders (hg.span span) (binders.map hf.binder) (binders'.map hg.binder)) =
        U.trail (.binders span binders binders')) (pattern : Expr) :
    ∀ subject, T.trail (Expr.align (f pattern) (g subject)) =
      U.trail (Expr.align pattern subject) := by
  induction pattern using Expr.induction with
  | ident span wildcard =>
    intro subject
    rw [hf.ident]
    simp only [Expr.align]
    exact hcapture wildcard subject
  | literal span value =>
    intro subject
    rw [hf.literal]
    cases subject with
    | literal span' value' =>
      rw [hg.literal]
      simp only [Expr.align]
      split <;> rfl
    | _ => simp only [hg.ident, hg.apply, hg.quantified, Expr.align]; rfl
  | apply span symbol args argsIH =>
    intro subject
    rw [hf.apply]
    cases subject with
    | apply span' symbol' args' =>
      rw [hg.apply]
      simp only [Expr.align, List.length_map]
      split
      · rw [trail_andThen, trail_andThen, trail_symbols, trail_symbols, trail_alignAll argsIH]
      · rfl
    | _ => simp only [hg.ident, hg.literal, hg.quantified, Expr.align]; rfl
  | quantified span quantifier binders body bodyIH =>
    intro subject
    rw [hf.quantified]
    cases subject with
    | quantified span' quantifier' binders' body' =>
      rw [hg.quantified]
      simp only [Expr.align, List.length_map]
      split
      · rw [trail_andThen, trail_andThen, hbinders, bodyIH]
      · rfl
    | _ => simp only [hg.ident, hg.literal, hg.apply, Expr.align]; rfl

/-! ## Changed outcomes -/

variable {strict : Bool}

/-- A changed pairing is compared with what was changed before, and is recorded or refused as it
would have been. -/
theorem record_pairing (σ : Subst) (pairing : Pairing) :
    (T.subst σ).record strict (T.pairing pairing) = T.outcome (σ.record strict pairing) := by
  cases pairing with
  | capture handle name subject =>
    simp only [Transport.pairing, Subst.record]
    rw [subst, Subst.value?_mapEntries T.handle_injective]
    cases σ.value? handle with
    | none =>
      simp only [Option.map_none, outcome]
      rw [subst, Subst.mapEntries_bind T.handle_injective]
    | some first =>
      -- the comparison with the first capture has the result that it had
      simp only [Option.map_some]
      rw [T.similar_subject]
      split <;> rfl
  | symbols f g =>
    simp only [Transport.pairing, Subst.record]
    rw [subst, Subst.function?_mapEntries]
    cases σ.function? f.name with
    | none => cases f.isUser <;> rfl
    | some first =>
      simp only
      split <;> rfl

theorem recordAll_map (pairings : List Pairing) : ∀ σ : Subst,
    (T.subst σ).recordAll strict (pairings.map T.pairing) =
      T.outcome (σ.recordAll strict pairings) := by
  induction pairings with
  | nil => intro σ; rfl
  | cons pairing rest ih =>
    intro σ
    change ((T.subst σ).record strict (T.pairing pairing) >>= fun τ =>
      τ.recordAll strict (rest.map T.pairing)) =
        T.outcome (σ.record strict pairing >>= fun τ => τ.recordAll strict rest)
    rw [record_pairing]
    cases σ.record strict pairing with
    -- what is left is not recorded on either side
    | error mismatch => rfl
    | ok τ => exact ih τ

theorem solve_trail (trail : Trail) (σ : Subst) :
    (T.trail trail).solve strict (T.subst σ) = T.outcome (trail.solve strict σ) := by
  unfold Trail.solve
  rw [Transport.trail, recordAll_map]
  cases σ.recordAll strict trail.pairings with
  | error mismatch => rfl
  | ok τ => cases trail.mismatch? <;> rfl

/-! ## Changed matches -/

variable {options : Options} {pattern pattern' subject subject' : Expr}

/-- A match that leaves the changed trail has the changed outcome. -/
theorem matchAgainst_of_align_eq
    (htrail : Expr.align pattern' subject' = T.trail (Expr.align pattern subject)) :
    pattern'.matchAgainst options subject' = T.outcome (pattern.matchAgainst options subject) := by
  have hempty : T.subst .empty = .empty := Subst.mapEntries_empty
  rw [Expr.matchAgainst_eq_solve, Expr.matchAgainst_eq_solve, htrail, ← solve_trail, hempty]

/-- Matches that leave the same trail up to the change have the same outcome up to it. -/
theorem outcome_eq_of_trail_eq
    (htrail : T.trail (Expr.align pattern subject) = T.trail (Expr.align pattern' subject')) :
    T.outcome (pattern.matchAgainst options subject) =
      T.outcome (pattern'.matchAgainst options subject') := by
  rw [Expr.matchAgainst_eq_solve, Expr.matchAgainst_eq_solve, ← solve_trail, htrail, solve_trail]

end Transport

end Graft
