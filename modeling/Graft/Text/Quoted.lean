import Graft.Text.Printable

/-!
# Quoted texts and records

How values are written in reports: a text stands between double quotes with everything escaped that
could not be told by its looks, and a record shows its name and its fields.
-/

namespace Graft.Text

def hexadecimal (n : Nat) : String := .ofList (Nat.toDigits 16 n)

/-- A character as it is written inside double quotes. -/
def escape (c : Char) : String :=
  match c with
  | '\x00' => "\\0"
  | '\t' => "\\t"
  | '\n' => "\\n"
  | '\r' => "\\r"
  | '\\' => "\\\\"
  | '"' => "\\\""
  | c => if isPrintable c then c.toString else "\\u\x7b" ++ hexadecimal c.toNat ++ "\x7d"

def quote (text : String) : String :=
  "\"" ++ .join (text.toList.map escape) ++ "\""

/-- A record with its fields; one without fields shows its name alone. -/
def record (name : String) (fields : List (String × String)) : String :=
  match fields with
  | [] => name
  | fields =>
    let shown := fields.map fun (field, value) => field ++ ": " ++ value
    name ++ " \x7b " ++ ", ".intercalate shown ++ " \x7d"

end Graft.Text
