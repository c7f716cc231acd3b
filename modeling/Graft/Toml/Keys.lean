import Graft.Toml.Tree
import Mathlib.Data.List.Forall2

/-!
# Keys of tables

What a table says is what stands under each of its keys. This tells the table as long as no key
repeats (`Tree.UniqueKeys`), and it does not depend on the order of the keys, on the spelling of the
table or on the places in the text (`Tree.Same`).
-/

namespace Graft.Toml

namespace Tree

/-- The switch that a part of a document consists of, if it is one. -/
def boolean? : Tree → Option Bool
  | .scalar _ (.boolean value) => some value
  | _ => none

/-- The items of an array, whether it is written between brackets or by headers. -/
def items? : Tree → Option (List Tree)
  | .array _ items => some items
  | .tables items => some items
  | _ => none

end Tree

namespace Entries

def names (entries : Entries) : List String := entries.map fun entry => entry.1.text

/-- What stands under a key. -/
def value? (entries : Entries) (name : String) : Option Tree := (entries.find? name).map Prod.snd

end Entries

/-- Holds of a part of a document in which no table has a key twice. -/
inductive Tree.UniqueKeys : Tree → Prop
  | scalar (span : Span) (value : Scalar) : UniqueKeys (.scalar span value)
  | array (span : Span) {items : List Tree} (all : ∀ item ∈ items, UniqueKeys item) :
      UniqueKeys (.array span items)
  | table (span : Option Span) (origin : Origin) {entries : Entries} (nodup : entries.names.Nodup)
      (all : ∀ entry ∈ entries, UniqueKeys entry.2) : UniqueKeys (.table span origin entries)
  | tables {items : List Tree} (all : ∀ item ∈ items, UniqueKeys item) : UniqueKeys (.tables items)

/-- Holds of the entries of a table that has no key twice, and neither has any table in it. -/
structure Entries.UniqueKeys (entries : Entries) : Prop where
  nodup : entries.names.Nodup
  all : ∀ entry ∈ entries, entry.2.UniqueKeys

/-- Holds of a reader that reads no document in which a table has a key twice. -/
def Reader.UniqueKeys (reader : Reader) : Prop :=
  ∀ text document, reader text = .ok document → Entries.UniqueKeys document

/-- Holds of parts of documents that say the same: equal values, arrays of parts that say the same,
or tables with the same keys and parts that say the same under each. -/
inductive Tree.Same : Tree → Tree → Prop
  | scalar (span span' : Span) (value : Scalar) : Same (.scalar span value) (.scalar span' value)
  | items {tree tree' : Tree} {items items' : List Tree} (hitems : tree.items? = some items)
      (hitems' : tree'.items? = some items') (each : List.Forall₂ Same items items') :
      Same tree tree'
  | table (span span' : Option Span) (origin origin' : Origin) {entries entries' : Entries}
      (each : ∀ name, Option.Rel Same (entries.value? name) (entries'.value? name)) :
      Same (.table span origin entries) (.table span' origin' entries')

namespace Tree

theorem boolean?_of_items? {tree : Tree} {items : List Tree} (h : tree.items? = some items) :
    tree.boolean? = none := by
  cases tree with
  | scalar _ _ => cases h
  | _ => rfl

theorem Same.boolean?_eq {tree tree' : Tree} (h : Same tree tree') :
    tree.boolean? = tree'.boolean? := by
  cases h with
  | scalar _ _ value => cases value <;> rfl
  | items hitems hitems' _ => rw [boolean?_of_items? hitems, boolean?_of_items? hitems']
  | table _ _ _ _ _ => rfl

end Tree

/-! ## Looking up keys -/

namespace Entries

variable {entries : Entries} {name : String}

theorem mem_of_find? {entry : Key × Tree} (h : entries.find? name = some entry) :
    entry ∈ entries ∧ entry.1.text = name := by
  have htext : (entry.1.text == name) = true := by simpa using List.find?_some h
  exact ⟨List.mem_of_find?_eq_some h, beq_iff_eq.mp htext⟩

theorem find?_eq_none_iff : entries.find? name = none ↔ name ∉ entries.names := by
  simp [find?, names]

theorem value?_eq_none_iff : entries.value? name = none ↔ name ∉ entries.names := by
  rw [value?, Option.map_eq_none_iff, find?_eq_none_iff]

theorem value?_cons (entry : Key × Tree) (rest : Entries) (name : String) :
    value? (entry :: rest) name = if entry.1.text = name then some entry.2 else rest.value? name := by
  by_cases h : entry.1.text = name
  · simp [value?, find?, h]
  · simp [value?, find?, h]

/-- If no key repeats, each entry is found under its key. -/
theorem value?_eq_some_iff (h : entries.names.Nodup) {tree : Tree} :
    entries.value? name = some tree ↔ ∃ entry ∈ entries, entry.1.text = name ∧ entry.2 = tree := by
  induction entries with
  | nil => simp [value?, find?]
  | cons first rest ih =>
    obtain ⟨hfirst, hrest⟩ := List.nodup_cons.mp h
    rw [value?_cons]
    by_cases hname : first.1.text = name
    · have hnot : ∀ entry ∈ rest, entry.1.text ≠ name := by
        intro entry hentry heq
        exact hfirst (List.mem_map.mpr ⟨entry, hentry, heq.trans hname.symm⟩)
      rw [if_pos hname]
      constructor
      · intro heq
        exact ⟨first, List.mem_cons_self, hname, Option.some.inj heq⟩
      · intro hexists
        obtain ⟨entry, hentry, heq, htree⟩ := hexists
        cases hentry with
        | head => rw [htree]
        | tail _ hentry => exact absurd heq (hnot entry hentry)
    · rw [if_neg hname, ih hrest]
      simp [hname]

end Entries

end Graft.Toml
