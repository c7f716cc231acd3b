import Graft.Toml.Tree

/-!
# Unquoted values

Booleans, integers, floating point numbers, dates and times. Each is a *word* of letters, digits and
a few marks, and a word is read as at most one of them.
-/

namespace Graft.Toml.Word

def isWordChar (c : Char) : Bool :=
  c.isAlphanum || c == '+' || c == '-' || c == '_' || c == '.' || c == ':'

/-! ## Digits -/

/-- The digits of a run in which single underscores may stand between two digits. -/
def digits? (isDigit : Char → Bool) : List Char → Option (List Char)
  | [] => none
  | [c] => if isDigit c then some [c] else none
  | c :: '_' :: rest => if isDigit c then (digits? isDigit rest).map (c :: ·) else none
  | c :: rest => if isDigit c then (digits? isDigit rest).map (c :: ·) else none

def digitValue (c : Char) : Nat :=
  if c.isDigit then c.toNat - '0'.toNat else c.toLower.toNat - 'a'.toNat + 10

def valueOf (base : Nat) (digits : List Char) : Nat :=
  digits.foldl (fun value digit => base * value + digitValue digit) 0

/-- Splits a sign off; no sign is a plus. -/
def sign : List Char → Bool × List Char
  | '-' :: rest => (true, rest)
  | '+' :: rest => (false, rest)
  | rest => (false, rest)

def signed (negative : Bool) (value : Nat) : Int := if negative then -(value : Int) else value

/-- The digits of a decimal number, which has a leading zero only if it is zero. -/
def decimal? (word : List Char) : Option (List Char) :=
  match word with
  | '0' :: _ :: _ => none
  | word => digits? Char.isDigit word

/-! ## Integers -/

/-- The integers of 64 bits. -/
def inRange (value : Int) : Bool :=
  -(Nat.pow 2 63 : Int) ≤ value && value < (Nat.pow 2 63 : Int)

/-- Reads an integer; bases other than ten take no sign. -/
def integer? (word : List Char) : Option Int := do
  let value ←
    match word with
    | '0' :: 'x' :: rest =>
      (digits? (fun c => c.isDigit || ('a' ≤ c.toLower && c.toLower ≤ 'f')) rest).map
        fun digits => (valueOf 16 digits : Int)
    | '0' :: 'o' :: rest =>
      (digits? (fun c => '0' ≤ c && c ≤ '7') rest).map fun digits => (valueOf 8 digits : Int)
    | '0' :: 'b' :: rest =>
      (digits? (fun c => c == '0' || c == '1') rest).map fun digits => (valueOf 2 digits : Int)
    | word =>
      let (negative, body) := sign word
      (decimal? body).map fun digits => signed negative (valueOf 10 digits)
  guard (inRange value)
  return value

/-! ## Floating point numbers -/

/-- Splits a word before the first character of a class. -/
def splitAt (isMark : Char → Bool) (word : List Char) : List Char × Option (List Char) :=
  match word.span (fun c => !isMark c) with
  | (before, []) => (before, none)
  | (before, _ :: rest) => (before, some rest)

def exponent? : Option (List Char) → Option Int
  | none => some 0
  | some word =>
    let (negative, body) := sign word
    (digits? Char.isDigit body).map fun digits => signed negative (valueOf 10 digits)

/-- Reads a number with a fraction, an exponent or both. One beyond all finite numbers is read as
infinite if it is negative and refused otherwise. -/
def finite? (negative : Bool) (body : List Char) : Option Float := do
  let (mantissa, exponent) := splitAt (fun c => c == 'e' || c == 'E') body
  let (whole, fraction) := splitAt (· == '.') mantissa
  guard (exponent.isSome || fraction.isSome)
  let whole ← decimal? whole
  let fraction ←
    match fraction with
    | none => some []
    | some digits => digits? Char.isDigit digits
  let power ← exponent? exponent
  match Decimal.Binary64.ofDecimal? (valueOf 10 (whole ++ fraction)) (power - fraction.length) with
  | some magnitude => return .finite negative magnitude
  | none => if negative then return .infinite true else none

def float? (word : List Char) : Option Float :=
  let (negative, body) := sign word
  if body = ['i', 'n', 'f'] then some (.infinite negative)
  else if body = ['n', 'a', 'n'] then some .notANumber
  else finite? negative body

/-! ## Dates and times -/

def two? (c d : Char) : Option Nat :=
  if c.isDigit && d.isDigit then some (valueOf 10 [c, d]) else none

/-- Number of days of a month, in the calendar with leap years. -/
def daysOf (year month : Nat) : Nat :=
  if month = 2 then
    if year % 4 = 0 ∧ (year % 100 ≠ 0 ∨ year % 400 = 0) then 29 else 28
  else if month ∈ [4, 6, 9, 11] then 30
  else 31

/-- Drops a date from the front. -/
def afterDate? : List Char → Option (List Char)
  | y :: y' :: y'' :: y''' :: '-' :: m :: m' :: '-' :: d :: d' :: rest => do
    let century ← two? y y'
    let month ← two? m m'
    let day ← two? d d'
    let year := 100 * century + (← two? y'' y''')
    guard (1 ≤ month && month ≤ 12)
    guard (1 ≤ day && day ≤ daysOf year month)
    return rest
  | _ => none

/-- Drops a time of day, up to fractions of a second, from the front. -/
def afterTime? : List Char → Option (List Char)
  | h :: h' :: ':' :: m :: m' :: ':' :: s :: s' :: rest => do
    let hour ← two? h h'
    let minute ← two? m m'
    let second ← two? s s'
    guard (hour ≤ 23 && minute ≤ 59 && second ≤ 60)
    match rest with
    | '.' :: fraction =>
      guard (fraction.head?.any Char.isDigit)
      return fraction.dropWhile Char.isDigit
    | rest => return rest
  | _ => none

/-- Tells whether the characters are the distance of a time zone, or no distance at all. -/
def isOffset : List Char → Bool
  | [] => true
  | ['Z'] => true
  | ['z'] => true
  | [c, h, h', ':', m, m'] =>
    (c == '+' || c == '-') && (two? h h').any (· ≤ 23) && (two? m m').any (· ≤ 59)
  | _ => false

/-- Tells whether a word is a date, a time, or a date and a time with or without a time zone. -/
def isDateTime (word : List Char) : Bool :=
  match afterDate? word with
  | none => afterTime? word == some []
  | some [] => true
  | some (c :: rest) =>
    (c == 'T' || c == 't' || c == ' ') && (afterTime? rest).any isOffset

/-- Tells whether a blank after a word belongs to it, as between a date and a time. -/
def joins (word following : List Char) : Bool :=
  match following with
  | ' ' :: h :: h' :: ':' :: _ => afterDate? word == some [] && h.isDigit && h'.isDigit
  | _ => false

/-! ## Words -/

/-- Reads a word as the value that it writes. -/
def scalar? (word : List Char) : Option Scalar :=
  if word = ['t', 'r', 'u', 'e'] then some (.boolean true)
  else if word = ['f', 'a', 'l', 's', 'e'] then some (.boolean false)
  else if isDateTime word then some .dateTime
  else
    match float? word with
    | some value => some (.float value)
    | none => (integer? word).map .integer

/-- Takes an unquoted value from the front of a text. -/
def scan (text : List Char) : Option (Scalar × List Char) :=
  let word := text.takeWhile isWordChar
  let rest := text.dropWhile isWordChar
  let (word, rest) :=
    if joins word rest then
      (word ++ ' ' :: rest.tail.takeWhile isWordChar, rest.tail.dropWhile isWordChar)
    else (word, rest)
  (scalar? word).map fun value => (value, rest)

end Graft.Toml.Word
