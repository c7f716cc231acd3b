import Graft.Toml.Grammar

/-!
# Documents

The lines of a document are gathered into the tables that they speak of. Each header opens a
section; the pairs up to the next header belong to it, and it is entered into the document when it
ends.
-/

namespace Graft.Toml

inductive Opening where
  /-- The start of the document, whose pairs belong to no header. -/
  | start
  | header (span : Span) (path : Path)
  | item (span : Span) (path : Path)
  deriving Inhabited

/-- A part of a document under one header. -/
structure Section where
  opening : Opening
  /-- What the table holds so far. -/
  entries : Entries
  deriving Inhabited

namespace Section

/-- The table of a section with the span that it has so far. -/
def table (span : Span) (entries : Entries) : Tree := .table (some span) .header entries

/-- Adds a pair to a section, whose table then extends to the end of the value. -/
def add (current : Section) (path : Path) (value : Tree) : Option Section := do
  let entries ← current.entries.addPair path value
  let extend (span : Span) : Span :=
    match value.span? with
    | some last => hull span last
    | none => span
  let opening :=
    match current.opening with
    | .start => .start
    | .header span path => .header (extend span) path
    | .item span path => .item (extend span) path
  return ⟨opening, entries⟩

/-- Enters a finished section into the document. -/
def close (current : Section) (document : Entries) : Option Entries :=
  match current.opening with
  | .start => some current.entries
  | .header span path =>
    Entries.changeUnder .header
      (fun _ entries => some (entries.add path.key (table span current.entries)))
      path.parents .header document
  | .item span path =>
    Entries.changeUnder .header
      (fun _ entries =>
        match entries.find? path.key.text with
        | none => some (entries.add path.key (.tables [table span current.entries]))
        | some (_, .tables items) =>
          some (entries.replace path.key.text (.tables (items ++ [table span current.entries])))
        | some _ => none)
      path.parents .header document

end Section

/-- What a header in single brackets finds under its path: a table that other headers imply is taken
over with what it holds, and anything else that is already there is an error. -/
def takeOver (path : Path) : List Key → Entries → Option Entries
  | [], entries =>
    match entries.find? path.key.text with
    | none => some []
    | some (_, .table _ .implied inner) => some inner
    | some _ => none
  | key :: parents, entries =>
    match entries.find? key.text with
    | none => some []
    | some (_, .table _ _ inner) => takeOver path parents inner
    | some (_, .tables items) =>
      match items.getLast? with
      | some (.table _ _ inner) => takeOver path parents inner
      | _ => none
    | some _ => none

/-- A document while its lines are read. -/
structure Gathering where
  /-- The sections that have ended. -/
  document : Entries
  current : Section
  deriving Inhabited

namespace Gathering

def start : Gathering := ⟨[], ⟨.start, []⟩⟩

def take (gathering : Gathering) : Line → Option Gathering
  | .pair path value => do
    let current ← gathering.current.add path value
    return { gathering with current }
  | .header span path => do
    let document ← gathering.current.close gathering.document
    let entries ← takeOver path path.parents document
    let document ← Entries.changeUnder .header
      (fun _ inner => some (inner.remove path.key.text)) path.parents .header document
    return ⟨document, ⟨.header span path, entries⟩⟩
  | .item span path => do
    let document ← gathering.current.close gathering.document
    let document ← Entries.changeUnder .header
      (fun _ inner =>
        match inner.find? path.key.text with
        | none => some inner
        | some (_, .tables _) => some inner
        | some _ => none)
      path.parents .header document
    return ⟨document, ⟨.item span path, []⟩⟩

def finish (gathering : Gathering) : Option Entries :=
  gathering.current.close gathering.document

end Gathering

/-- The document that a text writes by the grammar of TOML 1.0, if it writes one. -/
def parse? (text : String) : Option Entries := do
  let (lines, _) ← StateT.run Read.document ⟨0, text.toList⟩
  let gathering ← lines.foldlM Gathering.take .start
  gathering.finish

/-- Reads texts by that grammar. How it complains of a text that is no document is left open. -/
def reader (complaint : String → String) : Reader := fun text =>
  match parse? text with
  | some document => .ok document
  | none => .error (complaint text)

end Graft.Toml
