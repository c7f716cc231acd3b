import Graft.Span

/-!
# Reading characters

Readers take characters from the front of a text, count them, and fail without a reason: a document
that cannot be read is not explained any further.
-/

namespace Graft.Toml

/-- The characters still to be read and the number of those already read. -/
structure Input where
  offset : Nat
  rest : List Char
  deriving Inhabited

/-- A reader of some part of a text. -/
abbrev Read := StateT Input Option

namespace Read

/-- Goes on at a later place of the same text. -/
def skipTo (rest : List Char) : Read Unit :=
  modify fun input => ⟨input.offset + (input.rest.length - rest.length), rest⟩

def ahead : Read (List Char) := return (← get).rest

/-- The next character, which stays unread. -/
def peek? : Read (Option Char) := return (← ahead).head?

def char (c : Char) : Read Unit := do
  match ← ahead with
  | c' :: rest => if c = c' then skipTo rest else failure
  | [] => failure

/-- Reads the longest run of characters of a class. -/
def run (among : Char → Bool) : Read (List Char) := do
  let rest ← ahead
  skipTo (rest.dropWhile among)
  return rest.takeWhile among

/-- Reads by a function on the characters ahead, which says what it found and what remains. -/
def scan {α : Type} (scanner : List Char → Option (α × List Char)) : Read α := do
  match scanner (← ahead) with
  | some (found, rest) =>
    skipTo rest
    return found
  | none => failure

def atEnd : Read Bool := return (← ahead).isEmpty

/-- Reads something along with the span that it takes up. -/
def spanned {α : Type} (reader : Read α) : Read (α × Span) := do
  let start := (← get).offset
  let found ← reader
  return (found, ⟨start, (← get).offset - start⟩)

/-- A bound on the number of things that can still be read one after the other. -/
def budget : Read Nat := return (← ahead).length + 1

/-! ## Blanks, comments and line ends -/

def isBlank (c : Char) : Bool := c == ' ' || c == '\t'

/-- A character that may stand in a comment. -/
def isCommentChar (c : Char) : Bool := c == '\t' || 0x20 ≤ c.val

def blanks : Read Unit := do
  let _ ← run isBlank

/-- Reads a line feed, which a carriage return may precede. -/
def newline : Read Unit :=
  scan fun
    | '\n' :: rest => some ((), rest)
    | '\r' :: '\n' :: rest => some ((), rest)
    | _ => none

def comment : Read Unit := do
  if (← peek?) = some '#' then
    let _ ← run isCommentChar

/-- Reads what may follow on a line: blanks, a comment, and the end of the line or of the text. -/
def lineEnd : Read Unit := do
  blanks
  comment
  unless ← atEnd do newline

/-- Skips blanks, comments and line ends, for at most `limit` lines. -/
def blankLines (limit : Nat) : Read Unit := do
  match limit with
  | 0 => return
  | limit + 1 =>
    blanks
    let next ← peek?
    if next = some '#' then
      lineEnd
      blankLines limit
    else if next = some '\n' ∨ next = some '\r' then
      newline
      blankLines limit

end Read

end Graft.Toml
