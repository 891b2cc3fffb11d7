/-!
Paths as text, with the slash between their components. Empty components and dots name nothing,
except for a dot that begins a path.
-/
namespace CodeMetrics.Path

/-- On a reversed path: removes the slashes and dots that name nothing at its end. -/
def settle : List Char → List Char
  | '/' :: rest => settle rest
  | '.' :: '/' :: rest => settle rest
  | path => path

def parent? (path : String) : Option String :=
  let chars := path.toList
  let body := settle chars.reverse
  if body.isEmpty then none
  else
    let rest := settle (body.dropWhile (· != '/'))
    if rest.isEmpty && chars.head? == some '/' then some "/" else some (String.ofList rest.reverse)

def ancestors : Nat → String → List String
  | 0, _ => []
  | limit + 1, path =>
    path :: match parent? path with
      | some parent => ancestors limit parent
      | none => []

def isAbsolute (path : String) : Bool := path.toList.head? == some '/'

/-- An absolute path stands for itself wherever it is joined to. -/
def join (directory name : String) : String :=
  if isAbsolute name || directory.isEmpty then name
  else if directory.toList.getLast? == some '/' then directory ++ name
  else directory ++ "/" ++ name

def splitSlashes : List Char → List (List Char)
  | [] => [[]]
  | '/' :: rest => [] :: splitSlashes rest
  | char :: rest =>
    match splitSlashes rest with
    | [] => [[char]]
    | part :: parts => (char :: part) :: parts

def components (path : String) : List String := (splitSlashes path.toList).map String.ofList

end CodeMetrics.Path
