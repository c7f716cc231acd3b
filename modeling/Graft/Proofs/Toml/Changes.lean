import Graft.Toml.Grammar
import Graft.Toml.Keys
import Mathlib.Data.Option.Basic

/-!
# Changes under a path

At each key of a path a route gets to one inner table, or nothing can be changed (`exists_focus`). So
two changes under one path make up one change (`changeUnder_bind`), and keys stay unique in the whole
if they do in the table that the path leads to (`UniqueKeys.changeUnder`).
-/

namespace Graft.Toml

/-! ## Changing entries -/

namespace Entries

variable {entries : Entries} {name : String} {key : Key} {tree : Tree}

theorem names_add : (entries.add key tree).names = entries.names ++ [key.text] := by
  rw [add, names, names, List.map_append]
  rfl

theorem names_replace : (entries.replace name tree).names = entries.names := by
  rw [replace, names, names, List.map_map]
  refine List.map_congr_left fun entry _ => ?_
  rw [Function.comp_apply]
  split <;> rfl

theorem find?_add_of_none (h : entries.find? key.text = none) :
    (entries.add key tree).find? key.text = some (key, tree) := by
  rw [find?] at h
  rw [find?, add, List.find?_append, h]
  simp

theorem find?_replace_of_some {found : Tree} (h : entries.find? name = some (key, found)) :
    (entries.replace name tree).find? name = some (key, tree) := by
  have hname : key.text = name := (mem_of_find? h).2
  have hsame : ((fun entry : Key × Tree => entry.1.text == name) ∘ fun entry =>
      if entry.1.text == name then (entry.1, tree) else entry) =
        fun entry => entry.1.text == name := by
    funext entry
    rw [Function.comp_apply]
    split <;> rfl
  rw [find?] at h
  rw [find?, replace, List.find?_map, hsame, h, Option.map_some, if_pos (by simpa using hname)]

theorem replace_add_of_none {tree' : Tree} (h : entries.find? key.text = none) :
    (entries.add key tree).replace key.text tree' = entries.add key tree' := by
  have hkept : entries.replace key.text tree' = entries := by
    rw [replace]
    refine (List.map_congr_left fun entry hentry => ?_).trans (List.map_id entries)
    rw [find?, List.find?_eq_none] at h
    exact if_neg (h entry hentry)
  rw [replace] at hkept
  rw [replace, add, List.map_append, hkept]
  simp [add]

theorem replace_replace {tree' : Tree} :
    (entries.replace name tree).replace name tree' = entries.replace name tree' := by
  rw [replace, replace, replace, List.map_map]
  refine List.map_congr_left fun entry _ => ?_
  rw [Function.comp_apply]
  by_cases h : (entry.1.text == name) = true
  · rw [if_pos h, if_pos h, if_pos h]
  · rw [if_neg h, if_neg h]

theorem find?_remove (entries : Entries) (name : String) :
    (entries.remove name).find? name = none := by
  rw [find?_eq_none_iff]
  simp [names, remove]

namespace UniqueKeys

theorem nil : UniqueKeys [] where
  nodup := List.nodup_nil
  all _ h := nomatch h

theorem add (h : entries.UniqueKeys) (hnew : entries.find? key.text = none)
    (htree : tree.UniqueKeys) : (entries.add key tree).UniqueKeys where
  nodup := by
    rw [names_add, List.nodup_append]
    refine ⟨h.nodup, List.pairwise_singleton _ _, ?_⟩
    intro name hname _ hkey heq
    rw [heq, List.mem_singleton.mp hkey] at hname
    exact find?_eq_none_iff.mp hnew hname
  all entry hentry := by
    cases List.mem_append.mp hentry with
    | inl hold => exact h.all entry hold
    | inr hadded =>
      rw [List.mem_singleton.mp hadded]
      exact htree

theorem replace (h : entries.UniqueKeys) (name : String) (htree : tree.UniqueKeys) :
    (entries.replace name tree).UniqueKeys where
  nodup := by
    rw [names_replace]
    exact h.nodup
  all entry hentry := by
    obtain ⟨old, hold, rfl⟩ := List.mem_map.mp hentry
    split
    · exact htree
    · exact h.all old hold

theorem remove (h : entries.UniqueKeys) (name : String) : (entries.remove name).UniqueKeys where
  nodup := (List.filter_sublist.map _).nodup h.nodup
  all entry hentry := h.all entry (List.mem_of_mem_filter hentry)

theorem of_find? (h : entries.UniqueKeys) (hfind : entries.find? name = some (key, tree)) :
    tree.UniqueKeys :=
  h.all _ (mem_of_find? hfind).1

theorem of_value? (h : entries.UniqueKeys) (hvalue : entries.value? name = some tree) :
    tree.UniqueKeys := by
  obtain ⟨entry, hfind, rfl⟩ := Option.map_eq_some_iff.mp hvalue
  exact h.of_find? hfind

theorem of_table {span : Option Span} {origin : Origin}
    (h : (Tree.table span origin entries).UniqueKeys) : entries.UniqueKeys := by
  cases h with
  | table span origin hnodup hall => exact ⟨hnodup, hall⟩

theorem table (h : entries.UniqueKeys) (span : Option Span) (origin : Origin) :
    (Tree.table span origin entries).UniqueKeys :=
  .table span origin h.nodup h.all

end UniqueKeys

/-! ## Changing inner tables -/

/-- Holds of what a route finds and changes under a key: an inner table with its origin, and the way
in which a changed one is put back, in the place of any that was put there before. -/
structure Focus (route : Route) (key : Key) (entries : Entries) (origin : Origin) (inner : Entries)
    (put : Entries → Entries) : Prop where
  change : ∀ change path outer, changeUnder route change (key :: path) outer entries =
    (changeUnder route change path origin inner).map put
  change_put : ∀ put' change path outer, changeUnder route change (key :: path) outer (put put') =
    (changeUnder route change path origin put').map put
  uniqueKeys : entries.UniqueKeys → inner.UniqueKeys
  uniqueKeys_put : entries.UniqueKeys → ∀ {changed : Entries}, changed.UniqueKeys →
    (put changed).UniqueKeys

section Focus

variable {route : Route} {key' : Key} {span : Option Span} {origin outer : Origin}
  {inner : Entries} {items : List Tree} {change : Origin → Entries → Option Entries}
  {path : List Key}

theorem changeUnder_of_none (hfind : entries.find? key.text = none) :
    changeUnder route change (key :: path) outer entries =
      (changeUnder route change path route.origin []).map fun changed =>
        entries.add key (.table none route.origin changed) := by
  rw [changeUnder, hfind]
  cases changeUnder route change path route.origin [] <;> rfl

theorem changeUnder_of_table (hfind : entries.find? key.text = some (key', .table span origin inner))
    (hpasses : route.passes origin = true) :
    changeUnder route change (key :: path) outer entries =
      (changeUnder route change path origin inner).map fun changed =>
        entries.replace key.text (.table span origin changed) := by
  rw [changeUnder, hfind]
  dsimp only
  rw [(Option.guard_eq_some' ()).mpr hpasses]
  cases changeUnder route change path origin inner <;> rfl

theorem changeUnder_of_tables (hfind : entries.find? key.text = some (key', .tables items))
    (hlast : items.getLast? = some (.table span origin inner)) :
    changeUnder route change (key :: path) outer entries =
      (changeUnder route change path origin inner).map fun changed =>
        entries.replace key.text (.tables (items.dropLast ++ [.table span origin changed])) := by
  rw [changeUnder, hfind]
  simp only [hlast, Option.bind_eq_bind, Option.bind_some]
  cases changeUnder route change path origin inner <;> rfl

theorem focus_of_none (hfind : entries.find? key.text = none) :
    Focus route key entries route.origin [] fun changed =>
      entries.add key (.table none route.origin changed) where
  change _ _ _ := changeUnder_of_none hfind
  change_put put' change path outer := by
    have hpasses : route.passes route.origin = true := by cases route <;> rfl
    rw [changeUnder_of_table (find?_add_of_none hfind) hpasses]
    simp only [replace_add_of_none hfind]
  uniqueKeys _ := .nil
  uniqueKeys_put h _ hchanged := h.add hfind (hchanged.table none route.origin)

theorem focus_of_table (hfind : entries.find? key.text = some (key', .table span origin inner))
    (hpasses : route.passes origin = true) :
    Focus route key entries origin inner fun changed =>
      entries.replace key.text (.table span origin changed) where
  change _ _ _ := changeUnder_of_table hfind hpasses
  change_put put' change path outer := by
    rw [changeUnder_of_table (find?_replace_of_some hfind) hpasses]
    simp only [replace_replace]
  uniqueKeys h := .of_table (h.of_find? hfind)
  uniqueKeys_put h _ hchanged := h.replace key.text (hchanged.table span origin)

theorem focus_of_tables (hfind : entries.find? key.text = some (key', .tables items))
    (hlast : items.getLast? = some (.table span origin inner)) :
    Focus route key entries origin inner fun changed =>
      entries.replace key.text (.tables (items.dropLast ++ [.table span origin changed])) where
  change _ _ _ := changeUnder_of_tables hfind hlast
  change_put put' change path outer := by
    rw [changeUnder_of_tables (find?_replace_of_some hfind) List.getLast?_concat]
    simp only [replace_replace, List.dropLast_concat]
  uniqueKeys h := by
    cases h.of_find? hfind with
    | tables hall => exact .of_table (hall _ (List.mem_of_getLast? hlast))
  uniqueKeys_put h changed hchanged := by
    refine h.replace key.text (.tables fun item hitem => ?_)
    cases List.mem_append.mp hitem with
    | inl hbefore =>
      cases h.of_find? hfind with
      | tables hall => exact hall item (List.dropLast_subset items hbefore)
    | inr hchangedItem =>
      rw [List.mem_singleton.mp hchangedItem]
      exact hchanged.table span origin

/-- Under a key a route either gets to an inner table or cannot change anything. -/
theorem exists_focus (route : Route) (key : Key) (entries : Entries) :
    (∃ origin inner put, Focus route key entries origin inner put) ∨
      ∀ change path outer, changeUnder route change (key :: path) outer entries = none := by
  cases hfind : entries.find? key.text with
  | none => exact .inl ⟨_, _, _, focus_of_none hfind⟩
  | some entry =>
    obtain ⟨key', tree⟩ := entry
    cases tree with
    | scalar span value =>
      right
      intro change path outer
      rw [changeUnder, hfind]
    | array span items =>
      right
      intro change path outer
      rw [changeUnder, hfind]
    | table span origin inner =>
      by_cases hpasses : route.passes origin = true
      · exact .inl ⟨_, _, _, focus_of_table hfind hpasses⟩
      · right
        intro change path outer
        rw [changeUnder, hfind]
        exact congrArg (Option.bind · _) (if_neg hpasses)
    | tables items =>
      cases hlast : items.getLast? with
      | none =>
        right
        intro change path outer
        rw [changeUnder, hfind]
        simp only [hlast]
        rfl
      | some last =>
        cases last with
        | table span origin inner => exact .inl ⟨_, _, _, focus_of_tables hfind hlast⟩
        | _ =>
          right
          intro change path outer
          rw [changeUnder, hfind]
          simp only [hlast]
          rfl

end Focus

/-- Changes that are made under one path one after the other make up one change. -/
theorem changeUnder_bind (route : Route) (first second : Origin → Entries → Option Entries)
    (path : List Key) : ∀ (origin : Origin) (entries : Entries),
    ((changeUnder route first path origin entries).bind (changeUnder route second path origin)) =
      changeUnder route (fun origin inner => (first origin inner).bind (second origin)) path origin
        entries := by
  induction path with
  | nil => intro origin entries; rfl
  | cons key path ih =>
    intro outer entries
    cases exists_focus route key entries with
    | inl hexists =>
      obtain ⟨origin, inner, put, hfocus⟩ := hexists
      rw [hfocus.change, hfocus.change, ← ih]
      cases changeUnder route first path origin inner with
      | none => rfl
      | some changed => exact hfocus.change_put changed second path outer
    | inr hnone =>
      rw [hnone, hnone]
      rfl

/-- A change keeps keys unique if it does so in the table that the path leads to. -/
theorem UniqueKeys.changeUnder {route : Route} {change : Origin → Entries → Option Entries}
    (hchange : ∀ origin inner changed, inner.UniqueKeys → change origin inner = some changed →
      changed.UniqueKeys) {path : List Key} : ∀ {origin : Origin} {entries changed : Entries},
    entries.UniqueKeys → Entries.changeUnder route change path origin entries = some changed →
      changed.UniqueKeys := by
  induction path with
  | nil => exact hchange _ _ _
  | cons key path ih =>
    intro outer entries changed h hchanged
    cases exists_focus route key entries with
    | inl hexists =>
      obtain ⟨origin, inner, put, hfocus⟩ := hexists
      rw [hfocus.change, Option.map_eq_some_iff] at hchanged
      obtain ⟨changed, hinner, rfl⟩ := hchanged
      exact hfocus.uniqueKeys_put h (ih (hfocus.uniqueKeys h) hinner)
    | inr hnone =>
      rw [hnone] at hchanged
      cases hchanged

end Entries

end Graft.Toml
