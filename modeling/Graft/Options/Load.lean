import Graft.Event
import Graft.Options.Decode

/-!
# Loading options

Options are read from the text of a document or from a file, with any reader of documents. A file
that is not there gives the defaults; any other failure is reported with its cause: the complaint of
the reader, or a problem of content with the line that it is on.
-/

namespace Graft.Options

inductive ReadFailure where
  | isDirectory
  | notUtf8
  deriving DecidableEq, Inhabited

def ReadFailure.text : ReadFailure → String
  | .isDirectory => "Is a directory (os error 21)"
  | .notUtf8 => "stream did not contain valid UTF-8"

inductive TextError where
  /-- The text is no document at all, as the reader complains. -/
  | malformed (complaint : String)
  | content (text : String) (problem : Problem)
  deriving DecidableEq, Inhabited

inductive LoadError where
  | unreadable (path : String) (failure : ReadFailure)
  | text (path : String) (error : TextError)
  deriving DecidableEq, Inhabited

/-- What a path leads to. -/
inductive File where
  | missing
  | directory
  | bytes (content : ByteArray)

/-! ## Reports -/

def byteCount (chars : List Char) : Nat :=
  chars.foldl (fun count c => count + c.utf8Size) 0

/-- A problem shown on its line: a gutter with the line number, and carets below the place. The
carets stop at the end of the line, but there is always one. -/
def Problem.report (problem : Problem) (text : String) : String :=
  let chars := text.toList
  let before := chars.take problem.span.start
  let marked := chars.drop problem.span.start
  let lead := (before.reverse.takeWhile (· != '\n')).reverse
  let line := lead ++ marked.takeWhile (· != '\n')
  let number := toString (before.count '\n' + 1)
  let column := lead.length
  let room := byteCount line - column
  let carets := max 1 (min (byteCount (marked.take problem.span.length)) room)
  let gutter := "".pushn ' ' (number.length + 1) ++ "|"
  "TOML parse error at line " ++ number ++ ", column " ++ toString (column + 1) ++ "\n"
    ++ gutter ++ "\n"
    ++ number ++ " | " ++ .ofList line ++ "\n"
    ++ gutter ++ "".pushn ' ' (column + 1) ++ "".pushn '^' carets ++ "\n"
    ++ problem.reason.text ++ "\n"

/-- What is wrong with a text that holds no options. -/
def TextError.cause : TextError → String
  | .malformed complaint => complaint
  | .content text problem => problem.report text

def TextError.report (error : TextError) : String :=
  "failed to parse matcher options: " ++ error.cause

def LoadError.report : LoadError → String
  | .unreadable path failure => "failed to read " ++ path ++ ": " ++ failure.text
  | .text path error => path ++ ": " ++ error.report

/-- How every report of an error of configuration begins. -/
def headline (report : String) : String := "config error: " ++ report

/-- The identifying code of errors of configuration. -/
def errorCode : String := "propweave::config"

/-! ## Reading -/

def ofToml (reader : Toml.Reader) (text : String) : Except TextError Options :=
  match reader text with
  | .error complaint => .error (.malformed complaint)
  | .ok document => (ofDocument document).mapError (.content text)

def load (reader : Toml.Reader) (path : String) : File → Except LoadError Options
  | .missing => .ok {}
  | .directory => .error (.unreadable path .isDirectory)
  | .bytes content =>
    match String.fromUTF8? content with
    | none => .error (.unreadable path .notUtf8)
    | some text => (ofToml reader text).mapError (.text path)

/-- The events of reading options from what a path leads to. -/
def loadEvents (path : String) : File → List Event
  | .missing => [.defaultOptions path]
  | _ => []

end Graft.Options
