import Graft.Decimal.Shortest
import Graft.Span

/-!
# Document trees

What a TOML document says, with the places where it says so. Spans count characters from the start
of the text. A table knows how it came about, because that decides whether a later line may still
add to it.
-/

namespace Graft.Toml

/-- A key and where it stands, quotes included. -/
structure Key where
  text : String
  span : Span
  deriving DecidableEq, Inhabited

/-- A floating point number. Finite ones keep their sign even when they are zero. -/
inductive Float where
  | finite (negative : Bool) (magnitude : Decimal.Binary64)
  | infinite (negative : Bool)
  | notANumber
  deriving DecidableEq, Inhabited

def Float.text : Float → String
  | .finite negative magnitude => (if negative then "-" else "") ++ magnitude.text
  | .infinite negative => if negative then "-inf" else "inf"
  | .notANumber => "NaN"

/-- A value without parts. The fields of a date and time are checked but not kept. -/
inductive Scalar where
  | boolean (value : Bool)
  | integer (value : Int)
  | float (value : Float)
  | text (value : String)
  | dateTime
  deriving DecidableEq, Inhabited

/-- How a table came about. -/
inductive Origin where
  /-- By a header of its own. -/
  | header
  /-- By a header of a table inside it. -/
  | implied
  /-- By a dotted key. -/
  | dotted
  /-- Between braces. -/
  | braces
  deriving DecidableEq, Inhabited

/-- A part of a document. -/
inductive Tree where
  | scalar (span : Span) (value : Scalar)
  | array (span : Span) (items : List Tree)
  /-- Entries are in the order in which they were added. -/
  | table (span : Option Span) (origin : Origin) (entries : List (Key × Tree))
  /-- The tables of one or more headers in double brackets. -/
  | tables (items : List Tree)
  deriving Inhabited

/-- Entries of a table, in the order in which they were added; keys do not repeat. -/
abbrev Entries := List (Key × Tree)

/-- Reads the document that a text writes, or says why the text writes none. -/
abbrev Reader := String → Except String Entries

/-- The span from the start of the first to the end of the second. -/
def hull (first last : Span) : Span := ⟨first.start, last.start + last.length - first.start⟩

namespace Tree

/-- Where a part stands. Tables without a header or braces of their own stand nowhere. -/
def span? : Tree → Option Span
  | .scalar span _ => some span
  | .array span _ => some span
  | .table span _ _ => span
  | .tables items => do
    let .table (some first) _ _ ← items.head? | none
    let .table (some last) _ _ ← items.getLast? | none
    return hull first last

end Tree

namespace Entries

def find? (entries : Entries) (name : String) : Option (Key × Tree) :=
  List.find? (fun entry => entry.1.text == name) entries

def replace (entries : Entries) (name : String) (tree : Tree) : Entries :=
  entries.map fun entry => if entry.1.text == name then (entry.1, tree) else entry

def remove (entries : Entries) (name : String) : Entries :=
  entries.filter fun entry => entry.1.text != name

def add (entries : Entries) (key : Key) (tree : Tree) : Entries := entries ++ [(key, tree)]

end Entries

end Graft.Toml
