import CodeMetrics.Config
import CodeMetrics.Path
/-!
Finding the configuration that applies to a directory: the nearest readable file decides, even when
it does not parse.
-/
namespace CodeMetrics.ProjectConfig

def fileName : String := ".complexity.toml"

def searchDepth : Nat := 10

def candidates (start : String) : List String :=
  (Path.ancestors searchDepth start).map fun directory => Path.join directory fileName

def nearest? (read : String → Option String) : List String → Option (String × String)
  | [] => none
  | path :: rest =>
    match read path with
    | some text => some (path, text)
    | none => nearest? read rest

/-- What the parser says of a text that it refuses, where that is told. -/
abbrev ParserWords := String → Option String

/-- Of a key path that is too long the parser says no more than this. What it says otherwise quotes
the text and is not told here. -/
def plainWords : ParserWords := fun text =>
  match parse text with
  | .error .pathTooLong => some "recursion limit\n"
  | _ => none

def parseFailure : Option String → String
  | some words => s!"Failed to parse {fileName}: {words}"
  | none => s!"Failed to parse {fileName}"

def ofFile (words : ParserWords) (path text : String) : Except Failure ProjectConfig :=
  (parse text).mapError fun _ => .configuration (parseFailure (words text)) (some path)

/-- Where no file can be read the defaults apply. -/
def search (read : String → Option String) (start : String) (words : ParserWords := plainWords) :
    Except Failure ProjectConfig :=
  match nearest? read (candidates start) with
  | some found => ofFile words found.1 found.2
  | none => .ok {}

end CodeMetrics.ProjectConfig
