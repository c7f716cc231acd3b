/-!
# Quoted strings

The four forms of string: between double quotes with escapes, between single quotes without, and
either over several lines between triple quotes. Every function takes the characters after the
opening quotes and answers with the content and what follows the closing quotes.
-/

namespace Graft.Toml.Quoted

/-- A character that may stand unescaped in any string: the tab, the printable part of ASCII, and
everything beyond ASCII. -/
def isPlain (c : Char) : Bool :=
  c == '\t' || (0x20 ≤ c.val && c.val ≤ 0x7e) || 0x80 ≤ c.val

def hexDigit? (c : Char) : Option Nat :=
  if '0' ≤ c ∧ c ≤ '9' then some (c.toNat - '0'.toNat)
  else if 'a' ≤ c ∧ c ≤ 'f' then some (c.toNat - 'a'.toNat + 10)
  else if 'A' ≤ c ∧ c ≤ 'F' then some (c.toNat - 'A'.toNat + 10)
  else none

/-- The character whose code is written in hexadecimal digits. -/
def codePoint? (digits : List Char) : Option Char := do
  let values ← digits.mapM hexDigit?
  let code := values.foldl (fun code digit => 16 * code + digit) 0
  if code.isValidChar then some (Char.ofNat code) else none

def escape? : Char → Option Char
  | 'b' => some '\x08'
  | 'f' => some '\x0c'
  | 'n' => some '\n'
  | 'r' => some '\r'
  | 't' => some '\t'
  | '"' => some '"'
  | '\\' => some '\\'
  | _ => none

def after (piece : List Char) (found : Option (List Char × List Char)) :
    Option (List Char × List Char) :=
  found.map fun (content, rest) => (piece ++ content, rest)

/-- Reads up to the closing double quote. -/
def basic : List Char → Option (List Char × List Char)
  | [] => none
  | '"' :: rest => some ([], rest)
  | '\\' :: 'u' :: a :: b :: c :: d :: rest => do
    let char ← codePoint? [a, b, c, d]
    after [char] (basic rest)
  | '\\' :: 'U' :: a :: b :: c :: d :: e :: f :: g :: h :: rest => do
    let char ← codePoint? [a, b, c, d, e, f, g, h]
    after [char] (basic rest)
  | '\\' :: letter :: rest => do
    let char ← escape? letter
    after [char] (basic rest)
  | c :: rest => if isPlain c && c != '\\' then after [c] (basic rest) else none

def literal : List Char → Option (List Char × List Char)
  | [] => none
  | '\'' :: rest => some ([], rest)
  | c :: rest => if isPlain c then after [c] (literal rest) else none

/-- What follows three quotes: up to two more of them still belong to the content. -/
def closing (mark : Char) (rest : List Char) : List Char × List Char :=
  match rest with
  | [] => ([], [])
  | [c] => if c = mark then ([mark], []) else ([], [c])
  | c :: d :: more =>
    if c = mark then if d = mark then ([mark, mark], more) else ([mark], d :: more)
    else ([], rest)

/-- Where the reader of a multi-line string stands after a backslash at the end of a line. -/
inductive Fold where
  /-- Not after such a backslash. -/
  | none
  /-- On the line of the backslash, where only blanks may follow. -/
  | begun
  /-- On a later line, all blanks and line ends of which are dropped. -/
  | dropping
  deriving DecidableEq, Inhabited

/-- Reads up to the closing triple double quotes. A line feed is read for every line end. -/
def multiBasic : Fold → List Char → Option (List Char × List Char)
  | _, [] => .none
  | .begun, ' ' :: rest => multiBasic .begun rest
  | .begun, '\t' :: rest => multiBasic .begun rest
  | .begun, '\n' :: rest => multiBasic .dropping rest
  | .begun, '\r' :: '\n' :: rest => multiBasic .dropping rest
  | .begun, _ => .none
  | .dropping, ' ' :: rest => multiBasic .dropping rest
  | .dropping, '\t' :: rest => multiBasic .dropping rest
  | .dropping, '\n' :: rest => multiBasic .dropping rest
  | .dropping, '\r' :: '\n' :: rest => multiBasic .dropping rest
  | _, '"' :: '"' :: '"' :: rest => some (closing '"' rest)
  | _, '\n' :: rest => after ['\n'] (multiBasic .none rest)
  | _, '\r' :: '\n' :: rest => after ['\n'] (multiBasic .none rest)
  | _, '\\' :: 'u' :: a :: b :: c :: d :: rest => do
    let char ← codePoint? [a, b, c, d]
    after [char] (multiBasic .none rest)
  | _, '\\' :: 'U' :: a :: b :: c :: d :: e :: f :: g :: h :: rest => do
    let char ← codePoint? [a, b, c, d, e, f, g, h]
    after [char] (multiBasic .none rest)
  | _, '\\' :: letter :: rest =>
    match escape? letter with
    | some char => after [char] (multiBasic .none rest)
    | .none =>
      if letter = '\n' then multiBasic .dropping rest
      else if letter = ' ' ∨ letter = '\t' then multiBasic .begun rest
      else if letter = '\r' ∧ rest.head? = some '\n' then multiBasic .dropping rest
      else .none
  | _, c :: rest => if isPlain c && c != '\\' then after [c] (multiBasic .none rest) else .none

/-- Reads up to the closing triple single quotes. A line feed is read for every line end. -/
def multiLiteral : List Char → Option (List Char × List Char)
  | [] => none
  | '\'' :: '\'' :: '\'' :: rest => some (closing '\'' rest)
  | '\n' :: rest => after ['\n'] (multiLiteral rest)
  | '\r' :: '\n' :: rest => after ['\n'] (multiLiteral rest)
  | c :: rest => if isPlain c then after [c] (multiLiteral rest) else none

/-- Drops a line end that directly follows the opening triple quotes. -/
def afterOpening : List Char → List Char
  | '\n' :: rest => rest
  | '\r' :: '\n' :: rest => rest
  | rest => rest

/-- Reads a string of one line, opening quote included. -/
def single : List Char → Option (List Char × List Char)
  | '"' :: rest => basic rest
  | '\'' :: rest => literal rest
  | _ => none

/-- Reads a string of any form, opening quotes included. -/
def string : List Char → Option (List Char × List Char)
  | '"' :: '"' :: '"' :: rest => multiBasic .none (afterOpening rest)
  | '\'' :: '\'' :: '\'' :: rest => multiLiteral (afterOpening rest)
  | text => single text

end Graft.Toml.Quoted
