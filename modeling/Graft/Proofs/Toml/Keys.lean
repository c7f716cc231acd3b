import Graft.Proofs.Toml.Changes
import Graft.Toml.Document
import Mathlib.Data.Option.Basic

/-!
# Keys of a document

No table of a document that a text writes has a key twice (`uniqueKeys_of_parse?`), so that the
grammar gives a reader whose documents are told by their keys (`reader_uniqueKeys`). Values are read
that way. A pair is added only where its key is new. A header takes away what stands under its path
when its section begins and adds a table there when it ends; in between the document stays as it is,
so the key is still new.
-/

namespace Graft.Toml

/-- What each step of a run keeps, for things with a property, the whole run over such things keeps. -/
theorem foldlM_keeps {α β : Type} {step : β → α → Option β} {P : β → Prop} {Q : α → Prop}
    (hstep : ∀ before x after, P before → Q x → step before x = some after → P after)
    {xs : List α} (hxs : ∀ x ∈ xs, Q x) : ∀ {before after : β}, P before →
      xs.foldlM step before = some after → P after := by
  induction xs with
  | nil =>
    intro before after h hrun
    cases hrun
    exact h
  | cons x xs ih =>
    intro before after h hrun
    obtain ⟨hx, hxs⟩ := List.forall_mem_cons.mp hxs
    rw [List.foldlM_cons] at hrun
    obtain ⟨middle, hmiddle, hrest⟩ := Option.bind_eq_some_iff.mp hrun
    exact ih hxs (hstep before x middle h hx hmiddle) hrest

/-! ## What readers find -/

/-- Holds of a reader that finds nothing but things with a property. -/
def Read.Yields {α : Type} (reader : Read α) (P : α → Prop) : Prop :=
  ∀ input found rest, StateT.run reader input = some (found, rest) → P found

namespace Read.Yields

variable {α β : Type} {reader : Read α} {next : α → Read β} {P : α → Prop} {Q : β → Prop}

theorem any (reader : Read α) : Yields reader fun _ => True :=
  fun _ _ _ _ => trivial

theorem pure {a : α} (h : P a) : Yields (Pure.pure a : Read α) P := by
  intro input found rest hrun
  cases hrun
  exact h

theorem failure : Yields (Alternative.failure : Read α) P := by
  intro input found rest hrun
  cases hrun

theorem bind (h : Yields reader P) (hnext : ∀ found, P found → Yields (next found) Q) :
    Yields (reader >>= next) Q := by
  intro input found rest hrun
  rw [StateT.run_bind] at hrun
  obtain ⟨⟨middle, input'⟩, hmiddle, hfound⟩ := Option.bind_eq_some_iff.mp hrun
  exact hnext middle (h input middle input' hmiddle) input' found rest hfound

/-- It does not matter what a first reader finds. -/
theorem after (reader : Read α) (hnext : ∀ found, Yields (next found) Q) :
    Yields (reader >>= next) Q :=
  bind (any reader) fun found _ => hnext found

theorem spanned (h : Yields reader P) : Yields (Read.spanned reader) fun found => P found.1 :=
  after get fun _ => bind h fun _ hfound => after get fun _ => pure hfound

end Read.Yields

/-! ## Values -/

namespace Entries

theorem uniqueKeys_of_addPair {path : Path} {value : Tree} {entries added : Entries}
    (h : entries.UniqueKeys) (hvalue : value.UniqueKeys)
    (hadd : entries.addPair path value = some added) : added.UniqueKeys := by
  refine UniqueKeys.changeUnder ?_ h hadd
  intro origin inner changed hinner hchange
  obtain ⟨_, _, hchange⟩ := Option.bind_eq_some_iff.mp hchange
  obtain ⟨_, hguard, hchange⟩ := Option.bind_eq_some_iff.mp hchange
  cases hchange
  have hnew := Option.isNone_iff_eq_none.mp ((Option.guard_eq_some' _).mp hguard)
  exact hinner.add hnew hvalue

theorem uniqueKeys_of_ofPairs {pairs : List (Path × Tree)} {entries : Entries}
    (hpairs : ∀ pair ∈ pairs, pair.2.UniqueKeys) (h : ofPairs pairs = some entries) :
    entries.UniqueKeys := by
  refine foldlM_keeps ?_ hpairs .nil h
  exact fun _ _ _ hbefore hpair hadd => uniqueKeys_of_addPair hbefore hpair hadd

end Entries

namespace Read

theorem elements_yields {element : Read Tree} (h : Yields element Tree.UniqueKeys) (limit : Nat) :
    Yields (elements element limit) fun items => ∀ item ∈ items, item.UniqueKeys := by
  induction limit with
  | zero => exact .failure
  | succ limit ih =>
    refine .after _ fun _ => .after _ fun _ => .after _ fun next => ?_
    split
    · exact .after _ fun _ => .pure (by simp)
    · refine .bind h fun first hfirst => .after _ fun _ => .after _ fun _ => .after _ fun _ => ?_
      split
      · refine .after _ fun _ => .bind ih fun rest hrest => .pure ?_
        exact List.forall_mem_cons.mpr ⟨hfirst, hrest⟩
      · exact .after _ fun _ => .pure (by simpa using hfirst)

theorem pair_yields {value : Read Tree} (h : Yields value Tree.UniqueKeys) :
    Yields (pair value) fun pair => pair.2.UniqueKeys :=
  .after _ fun _ => .after _ fun _ => .after _ fun _ => .bind h fun _ hvalue => .pure hvalue

theorem bracedPairs_yields {value : Read Tree} (h : Yields value Tree.UniqueKeys) (limit : Nat) :
    Yields (bracedPairs value limit) fun pairs => ∀ pair ∈ pairs, pair.2.UniqueKeys := by
  induction limit with
  | zero => exact .failure
  | succ limit ih =>
    refine .bind (pair_yields h) fun first hfirst => .after _ fun _ => .after _ fun _ => ?_
    split
    · refine .after _ fun _ => .bind ih fun rest hrest => .pure ?_
      exact List.forall_mem_cons.mpr ⟨hfirst, hrest⟩
    · exact .after _ fun _ => .pure (by simpa using hfirst)

theorem braced_yields {value : Read Tree} (h : Yields value Tree.UniqueKeys) :
    Yields (braced value) Entries.UniqueKeys := by
  refine .after _ fun _ => .after _ fun _ => .after _ fun _ => ?_
  split
  · exact .after _ fun _ => .pure .nil
  · refine .after _ fun _ => .bind (bracedPairs_yields h _) fun pairs hpairs => ?_
    split
    next hentries => exact .pure (Entries.uniqueKeys_of_ofPairs hpairs hentries)
    next => exact .failure

theorem quoted_yields : Yields value.quoted Tree.UniqueKeys :=
  .after _ fun _ => .pure (.scalar _ _)

/-- The induction is on the depth, along which alone values are nested. -/
theorem value_yields (depth : Nat) : Yields (value depth) Tree.UniqueKeys := by
  induction depth with
  | zero =>
    rw [value]
    refine .after _ fun _ => ?_
    split
    · exact quoted_yields
    · exact quoted_yields
    · exact .failure
    · exact .failure
    · exact .after _ fun _ => .pure (.scalar _ _)
  | succ depth ih =>
    rw [value]
    refine .after _ fun _ => ?_
    split
    · exact quoted_yields
    · exact quoted_yields
    · refine .bind (.spanned (.after _ fun _ => .after _ fun _ => elements_yields ih _)) ?_
      exact fun found hitems => .pure (.array _ hitems)
    · exact .bind (.spanned (braced_yields ih)) fun found hentries => .pure (hentries.table _ _)
    · exact .after _ fun _ => .pure (.scalar _ _)

end Read

/-! ## Lines -/

/-- Holds of a line if keys are unique in the value that it gives. -/
def Line.UniqueKeys : Line → Prop
  | .pair _ value => value.UniqueKeys
  | .header _ _ => True
  | .item _ _ => True

namespace Read

theorem header_yields : Yields header Line.UniqueKeys := by
  refine .after _ fun found => .pure ?_
  split <;> trivial

theorem line_yields : Yields line Line.UniqueKeys := by
  refine .after _ fun _ => ?_
  split
  · exact .bind header_yields fun _ hline => .after _ fun _ => .pure hline
  · refine .bind (pair_yields (value_yields _)) fun found hvalue => ?_
    have hline : (Line.pair found.1 found.2).UniqueKeys := hvalue
    exact .bind (.pure hline) fun _ hline => .after _ fun _ => .pure hline

theorem lines_yields (limit : Nat) :
    Yields (lines limit) fun lines => ∀ line ∈ lines, line.UniqueKeys := by
  induction limit with
  | zero => exact .failure
  | succ limit ih =>
    refine .after _ fun _ => .after _ fun _ => .after _ fun _ => ?_
    split
    · exact .pure (by simp)
    · refine .bind line_yields fun first hfirst => .bind ih fun rest hrest => .pure ?_
      exact List.forall_mem_cons.mpr ⟨hfirst, hrest⟩

theorem document_yields : Yields document fun lines => ∀ line ∈ lines, line.UniqueKeys := by
  refine .after _ fun _ => ?_
  split
  · exact .after _ fun _ => .after _ fun _ => lines_yields _
  · exact .after _ fun _ => lines_yields _

end Read

/-! ## Sections -/

theorem uniqueKeys_of_takeOver {path : Path} : ∀ {parents : List Key} {entries inner : Entries},
    entries.UniqueKeys → takeOver path parents entries = some inner → inner.UniqueKeys := by
  intro parents
  induction parents with
  | nil =>
    intro entries inner h hinner
    rw [takeOver] at hinner
    split at hinner
    · cases hinner
      exact .nil
    next hfind =>
      cases hinner
      exact .of_table (h.of_find? hfind)
    · cases hinner
  | cons key parents ih =>
    intro entries inner h hinner
    rw [takeOver] at hinner
    split at hinner
    · cases hinner
      exact .nil
    next hfind => exact ih (.of_table (h.of_find? hfind)) hinner
    next hfind =>
      split at hinner
      next hlast =>
        cases h.of_find? hfind with
        | tables hall => exact ih (.of_table (hall _ (List.mem_of_getLast? hlast))) hinner
      · cases hinner
    · cases hinner

/-- Holds of a document into which a section can be entered without repeating a key: the table under
the path of a header was taken out, and the document has not changed since. -/
def Opening.Admits (document : Entries) : Opening → Prop
  | .start => True
  | .header _ path => ∃ before : Entries, before.UniqueKeys ∧
    Entries.changeUnder .header (fun _ inner => some (inner.remove path.key.text)) path.parents
      .header before = some document
  | .item _ _ => document.UniqueKeys

/-- Holds of a document while its lines are read, if keys are unique in the section and will be in
the document that it is entered into. -/
structure Gathering.UniqueKeys (gathering : Gathering) : Prop where
  entries : gathering.current.entries.UniqueKeys
  admits : gathering.current.opening.Admits gathering.document

namespace Section

variable {current extended : Section} {document closed : Entries} {path : Path} {value : Tree}

theorem entries_of_add (h : current.add path value = some extended) :
    current.entries.addPair path value = some extended.entries := by
  obtain ⟨entries, hadd, hextended⟩ := Option.bind_eq_some_iff.mp h
  cases hextended
  exact hadd

theorem admits_of_add (h : current.add path value = some extended)
    (hadmits : current.opening.Admits document) : extended.opening.Admits document := by
  obtain ⟨entries, -, hextended⟩ := Option.bind_eq_some_iff.mp h
  cases hextended
  obtain ⟨opening, entries⟩ := current
  cases opening <;> exact hadmits

theorem uniqueKeys_of_close (hentries : current.entries.UniqueKeys)
    (hadmits : current.opening.Admits document) (h : current.close document = some closed) :
    closed.UniqueKeys := by
  obtain ⟨opening, entries⟩ := current
  cases opening with
  | start =>
    cases h
    exact hentries
  | header span path =>
    obtain ⟨before, hbefore, hremoved⟩ := hadmits
    -- Taking out and entering make up one change of the document before.
    have hboth := Entries.changeUnder_bind .header
      (fun _ inner => some (inner.remove path.key.text))
      (fun _ inner => some (inner.add path.key (table span entries))) path.parents .header before
    rw [hremoved, Option.bind_some] at hboth
    refine Entries.UniqueKeys.changeUnder ?_ hbefore (hboth.symm.trans h)
    intro origin inner changed hinner hchange
    cases hchange
    exact (hinner.remove _).add (inner.find?_remove _) (hentries.table _ _)
  | item span path =>
    have htable : (table span entries).UniqueKeys := hentries.table _ _
    refine Entries.UniqueKeys.changeUnder ?_ hadmits h
    intro origin inner changed hinner hchange
    split at hchange
    next hfind =>
      cases hchange
      exact hinner.add hfind (.tables (by simpa using htable))
    next items hfind =>
      cases hchange
      refine hinner.replace _ (.tables ?_)
      cases hinner.of_find? hfind with
      | tables hall =>
        intro item hitem
        cases List.mem_append.mp hitem with
        | inl hold => exact hall item hold
        | inr hnew =>
          rw [List.mem_singleton.mp hnew]
          exact htable
    · cases hchange

end Section

namespace Gathering.UniqueKeys

theorem start : Gathering.start.UniqueKeys := ⟨.nil, trivial⟩

theorem finish {gathering : Gathering} {document : Entries} (h : gathering.UniqueKeys)
    (hfinish : gathering.finish = some document) : document.UniqueKeys :=
  Section.uniqueKeys_of_close h.entries h.admits hfinish

/-- What a line does to a document while its lines are read. -/
theorem take {gathering next : Gathering} {line : Line} (h : gathering.UniqueKeys)
    (hline : line.UniqueKeys) (htake : gathering.take line = some next) : next.UniqueKeys := by
  cases line with
  | pair path value =>
    obtain ⟨current, hadd, hnext⟩ := Option.bind_eq_some_iff.mp htake
    cases hnext
    have hentries := Entries.uniqueKeys_of_addPair h.entries hline (Section.entries_of_add hadd)
    exact ⟨hentries, Section.admits_of_add hadd h.admits⟩
  | header span path =>
    obtain ⟨document, hclose, htake⟩ := Option.bind_eq_some_iff.mp htake
    obtain ⟨entries, hentries, htake⟩ := Option.bind_eq_some_iff.mp htake
    obtain ⟨removed, hremoved, hnext⟩ := Option.bind_eq_some_iff.mp htake
    cases hnext
    have hdocument := h.finish hclose
    exact ⟨uniqueKeys_of_takeOver hdocument hentries, document, hdocument, hremoved⟩
  | item span path =>
    obtain ⟨document, hclose, htake⟩ := Option.bind_eq_some_iff.mp htake
    obtain ⟨changed, hchanged, hnext⟩ := Option.bind_eq_some_iff.mp htake
    cases hnext
    refine ⟨.nil, Entries.UniqueKeys.changeUnder ?_ (h.finish hclose) hchanged⟩
    intro origin inner changed hinner hchange
    split at hchange
    · cases hchange
      exact hinner
    · cases hchange
      exact hinner
    · cases hchange

/-- What a run over lines does to a document. -/
theorem foldlM_take {lines : List Line} (hlines : ∀ line ∈ lines, line.UniqueKeys)
    {gathering last : Gathering} (h : gathering.UniqueKeys)
    (hrun : lines.foldlM Gathering.take gathering = some last) : last.UniqueKeys :=
  foldlM_keeps (fun _ _ _ hbefore hline htake => hbefore.take hline htake) hlines h hrun

end Gathering.UniqueKeys

theorem uniqueKeys_of_parse? {text : String} {document : Entries} (h : parse? text = some document) :
    document.UniqueKeys := by
  obtain ⟨⟨lines, input⟩, hread, h⟩ := Option.bind_eq_some_iff.mp h
  obtain ⟨gathering, hrun, hfinish⟩ := Option.bind_eq_some_iff.mp h
  have hlines := Read.document_yields _ lines input hread
  exact (Gathering.UniqueKeys.foldlM_take hlines .start hrun).finish hfinish

theorem reader_uniqueKeys (complaint : String → String) : (reader complaint).UniqueKeys := by
  intro text document hread
  unfold reader at hread
  cases hparse : parse? text with
  | none =>
    rw [hparse] at hread
    cases hread
  | some parsed =>
    rw [hparse] at hread
    cases hread
    exact uniqueKeys_of_parse? hparse

end Graft.Toml
