import Graft.Options.Basic
import Graft.Text.Quoted
import Graft.Toml.Tree

/-!
# Options in a document

The options are read from the entry `matching` of a document: a table with the two switches by name,
or an array with them in order. A switch that is left out has its default, and so have both where
the entry is missing. Other entries of the document are ignored, but other keys of the table are not
allowed.
-/

namespace Graft.Options

/-- What stands in the place of a wanted value, as far as reports tell. -/
inductive Found where
  | scalar (value : Toml.Scalar)
  | sequence
  | map
  deriving DecidableEq, Inhabited

/-- What a part of a document is read as. -/
inductive Wanted where
  | boolean
  | options
  deriving DecidableEq, Inhabited

inductive Reason where
  | unknownField (name : String)
  | wrongType (found : Found) (wanted : Wanted)
  deriving DecidableEq, Inhabited

/-- A reason and the place in the text that it is about. -/
structure Problem where
  span : Span
  reason : Reason
  deriving DecidableEq, Inhabited

/-! ## Wording -/

def Found.text : Found → String
  | .scalar (.boolean value) => "boolean `" ++ (if value then "true" else "false") ++ "`"
  | .scalar (.integer value) => "integer `" ++ toString value ++ "`"
  | .scalar (.float value) => "floating point `" ++ value.text ++ "`"
  | .scalar (.text value) => "string " ++ Text.quote value
  | .scalar .dateTime => "map"
  | .sequence => "sequence"
  | .map => "map"

def Wanted.text : Wanted → String
  | .boolean => "a boolean"
  | .options => "struct MatchOptions"

def Reason.text : Reason → String
  | .unknownField name =>
    "unknown field `" ++ name ++ "`, expected `strict_function_capture` or `compare_param_types`"
  | .wrongType found wanted => "invalid type: " ++ found.text ++ ", expected " ++ wanted.text

/-! ## Decoding -/

/-- What a tree is found to be where something else is wanted. -/
def Found.ofTree : Toml.Tree → Found
  | .scalar _ value => .scalar value
  | .array _ _ => .sequence
  | .table _ _ _ => .map
  | .tables _ => .sequence

/-- Reads a switch. A tree that stands nowhere itself is pointed at by `place`. -/
def decodeSwitch (place : Span) : Toml.Tree → Except Problem Bool
  | .scalar _ (.boolean value) => .ok value
  | tree => .error ⟨tree.span?.getD place, .wrongType (.ofTree tree) .boolean⟩

def decodeEntry (options : Options) (entry : Toml.Key × Toml.Tree) : Except Problem Options :=
  let (key, tree) := entry
  if key.text = "strict_function_capture" then do
    let value ← decodeSwitch key.span tree
    return { options with strictFunctionCapture := value }
  else if key.text = "compare_param_types" then do
    let value ← decodeSwitch key.span tree
    return { options with compareParamTypes := value }
  else .error ⟨key.span, .unknownField key.text⟩

/-- Reads the options in order, as far as they are given. -/
def decodeItems (place : Span) : List Toml.Tree → Except Problem Options
  | [] => .ok {}
  | [strict] => do
    let strict ← decodeSwitch place strict
    return { strictFunctionCapture := strict }
  | strict :: types :: _ => do
    let strict ← decodeSwitch place strict
    let types ← decodeSwitch place types
    return ⟨strict, types⟩

/-- The name of the one field under which a date or time presents itself as a map. -/
def dateTimeField : String := "$__toml_private_datetime"

def decodeTree (place : Span) : Toml.Tree → Except Problem Options
  | .table _ _ entries => entries.foldlM decodeEntry {}
  | .array _ items => decodeItems place items
  | .tables items => decodeItems place items
  | .scalar span .dateTime => .error ⟨span, .unknownField dateTimeField⟩
  | .scalar span value => .error ⟨span, .wrongType (.scalar value) .options⟩

def ofDocument (document : Toml.Entries) : Except Problem Options :=
  match document.find? "matching" with
  | none => .ok {}
  | some (key, tree) => decodeTree key.span tree

end Graft.Options
