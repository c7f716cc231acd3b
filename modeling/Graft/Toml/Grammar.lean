import Graft.Toml.Quoted
import Graft.Toml.Read
import Graft.Toml.Word

/-!
# Lines of a document

A document is read line by line: pairs of a key and a value, headers of tables, and headers of
tables in arrays. Values nest to a bounded depth, and dotted keys have a bounded number of parts.
-/

namespace Graft.Toml

/-- A dotted key: the parts before the last one, and the last one. -/
structure Path where
  parents : List Key
  key : Key
  deriving DecidableEq, Inhabited

/-- A line that says something. -/
inductive Line where
  | pair (path : Path) (value : Tree)
  | header (span : Span) (path : Path)
  /-- A header in double brackets. -/
  | item (span : Span) (path : Path)
  deriving Inhabited

/-- Least number of nested brackets and braces, and least number of parts of a dotted key, that are
refused. -/
def nestingLimit : Nat := 80

/-! ## Adding to tables -/

/-- Who adds to the table under a path: a header, which may pass through any table but one between
braces, or a dotted key, which may only pass through tables without a header or braces of their
own. -/
inductive Route where
  | header
  | dotted
  deriving DecidableEq, Inhabited

/-- The origin of the tables that a route adds where the path leads nowhere yet. -/
def Route.origin : Route → Origin
  | .header => .implied
  | .dotted => .dotted

/-- Tells whether a route may pass through a table. -/
def Route.passes : Route → Origin → Bool
  | _, .braces => false
  | .header, _ => true
  | .dotted, .header => false
  | .dotted, _ => true

namespace Entries

/-- Changes the table under a path. Tables on the way are added where they are missing; of the
tables in an array the last one is meant, however it came about. -/
def changeUnder (route : Route) (change : Origin → Entries → Option Entries) :
    List Key → Origin → Entries → Option Entries
  | [], origin, entries => change origin entries
  | key :: path, _, entries =>
    match entries.find? key.text with
    | none => do
      let inner ← changeUnder route change path route.origin []
      return entries.add key (.table none route.origin inner)
    | some (_, .table span origin inner) => do
      guard (route.passes origin)
      let inner ← changeUnder route change path origin inner
      return entries.replace key.text (.table span origin inner)
    | some (_, .tables items) => do
      let .table span origin inner ← items.getLast? | none
      let inner ← changeUnder route change path origin inner
      return entries.replace key.text (.tables (items.dropLast ++ [.table span origin inner]))
    | some _ => none

/-- Adds a pair to a table. A dotted key may end only in a table that dotted keys made, and a key
may not repeat. -/
def addPair (path : Path) (value : Tree) (entries : Entries) : Option Entries :=
  changeUnder .dotted
    (fun origin inner => do
      guard (path.parents.isEmpty || origin == .dotted)
      guard (inner.find? path.key.text).isNone
      return inner.add path.key value)
    path.parents .header entries

/-- The table of pairs in order, if they fit together. -/
def ofPairs (pairs : List (Path × Tree)) : Option Entries :=
  pairs.foldlM (fun entries (path, value) => entries.addPair path value) []

end Entries

/-! ## Keys -/

namespace Read

def isKeyChar (c : Char) : Bool := c.isAlphanum || c == '_' || c == '-'

def keyPart : Read Key := do
  let (text, span) ← spanned do
    let next ← peek?
    if next = some '"' ∨ next = some '\'' then scan Quoted.single
    else
      let word ← run isKeyChar
      guard (!word.isEmpty)
      return word
  return ⟨.ofList text, span⟩

/-- Reads the parts of a dotted key after its first part. -/
def keyParts (limit : Nat) : Read (List Key) := do
  match limit with
  | 0 => failure
  | limit + 1 =>
    blanks
    if (← peek?) = some '.' then
      char '.'
      blanks
      let part ← keyPart
      let parts ← keyParts limit
      return part :: parts
    else return []

/-- Reads a dotted key and the blanks around it. -/
def path : Read Path := do
  blanks
  let first ← keyPart
  let rest ← keyParts (← budget)
  guard (rest.length + 1 < nestingLimit)
  return ⟨(first :: rest).dropLast, (first :: rest).getLast (List.cons_ne_nil first rest)⟩

/-! ## Values -/

/-- Reads the elements of an array up to its closing bracket, a comma after each but perhaps the
last. -/
def elements (element : Read Tree) (limit : Nat) : Read (List Tree) := do
  match limit with
  | 0 => failure
  | limit + 1 =>
    blankLines (← budget)
    if (← peek?) = some ']' then
      char ']'
      return []
    else
      let first ← element
      blankLines (← budget)
      if (← peek?) = some ',' then
        char ','
        let rest ← elements element limit
        return first :: rest
      else
        char ']'
        return [first]

/-- Reads a key, an equals sign and a value. -/
def pair (value : Read Tree) : Read (Path × Tree) := do
  let path ← path
  char '='
  blanks
  let value ← value
  return (path, value)

/-- Reads the pairs between braces up to the closing one. -/
def bracedPairs (value : Read Tree) (limit : Nat) : Read (List (Path × Tree)) := do
  match limit with
  | 0 => failure
  | limit + 1 =>
    let first ← pair value
    blanks
    if (← peek?) = some ',' then
      char ','
      let rest ← bracedPairs value limit
      return first :: rest
    else
      char '}'
      return [first]

/-- Reads a table between braces; its pairs stand on one line. -/
def braced (value : Read Tree) : Read Entries := do
  char '{'
  blanks
  if (← peek?) = some '}' then
    char '}'
    return []
  else
    let pairs ← bracedPairs value (← budget)
    match Entries.ofPairs pairs with
    | some entries => return entries
    | none => failure

/-- Reads a value in which at most `depth` brackets and braces are nested. -/
def value (depth : Nat) : Read Tree := do
  match ← peek? with
  | some '"' => quoted
  | some '\'' => quoted
  | some '[' =>
    match depth with
    | 0 => failure
    | depth + 1 =>
      let (items, span) ← spanned do
        char '['
        elements (value depth) (← budget)
      return .array span items
  | some '{' =>
    match depth with
    | 0 => failure
    | depth + 1 =>
      let (entries, span) ← spanned (braced (value depth))
      return .table span .braces entries
  | _ =>
    let (found, span) ← spanned (scan Word.scan)
    return .scalar span found
where
  /-- Reads a string. -/
  quoted : Read Tree := do
    let (text, span) ← spanned (scan Quoted.string)
    return .scalar span (.text (.ofList text))

/-! ## Lines -/

/-- Reads a header in single or double brackets. -/
def header : Read Line := do
  let ((path, double), span) ← spanned do
    char '['
    let double := (← peek?) == some '['
    if double then char '['
    let path ← path
    char ']'
    if double then char ']'
    return (path, double)
  return if double then .item span path else .header span path

/-- Reads a line that says something, up to its end. -/
def line : Read Line := do
  let line ←
    if (← peek?) = some '[' then header
    else do
      let (path, value) ← pair (value (nestingLimit - 1))
      pure (.pair path value)
  lineEnd
  return line

/-- Reads all lines that say something, up to the end of the text. -/
def lines (limit : Nat) : Read (List Line) := do
  match limit with
  | 0 => failure
  | limit + 1 =>
    blankLines (← budget)
    if ← atEnd then return []
    else
      let first ← line
      let rest ← lines limit
      return first :: rest

/-- Reads a whole document, before which a byte order mark may stand. -/
def document : Read (List Line) := do
  if (← peek?) = some '\uFEFF' then char '\uFEFF'
  lines (← budget)

end Read

end Graft.Toml
