import CodeMetrics.Path
/-!
Directories and files by the names on the way to them, and how a path leads there from the working
directory. The root is always a directory.
-/
namespace CodeMetrics

inductive FileNode where
  | directory
  | file (content : ByteArray)

inductive FileFault where
  | notFound
  | notDirectory
  | isDirectory
  | pathTooLong
  deriving DecidableEq

def FileFault.message : FileFault → String
  | .notFound => "No such file or directory (os error 2)"
  | .notDirectory => "Not a directory (os error 20)"
  | .isDirectory => "Is a directory (os error 21)"
  | .pathTooLong => "File name too long (os error 36)"

structure FileTree where
  nodes : List (List String × FileNode) := []
  workingDirectory : List String := []

namespace FileTree

def node? (tree : FileTree) (place : List String) : Option FileNode :=
  if place.isEmpty then some .directory
  else (tree.nodes.find? fun entry => entry.1 == place).map Prod.snd

def put (tree : FileTree) (place : List String) (node : FileNode) : FileTree :=
  { tree with nodes := (place, node) :: tree.nodes }

/-- Creates one directory inside the other, as far as nothing stands there, and tells where the names
lead. -/
def makeDirectories (tree : FileTree) (place : List String) : List String → FileTree × List String
  | [] => (tree, place)
  | name :: rest =>
    if name = "" ∨ name = "." then tree.makeDirectories place rest
    else if name = ".." then tree.makeDirectories place.dropLast rest
    else
      let next := place ++ [name]
      let grown := if (tree.node? next).isSome then tree else tree.put next .directory
      grown.makeDirectories next rest

/-- Where names lead from a place. Each name but the last has to be that of a directory. -/
def follow (tree : FileTree) (place : List String) : List String → Except FileFault (List String)
  | [] => .ok place
  | name :: rest =>
    match tree.node? place with
    | none => .error .notFound
    | some (.file _) => .error .notDirectory
    | some .directory =>
      if name = "" ∨ name = "." then tree.follow place rest
      else if name = ".." then tree.follow place.dropLast rest
      else if (tree.node? (place ++ [name])).isSome then tree.follow (place ++ [name]) rest
      else .error .notFound

def origin (tree : FileTree) (path : String) : List String :=
  if Path.isAbsolute path then [] else tree.workingDirectory

/-- The bytes that a path may have. -/
def pathLimit : Nat := 4095

def read (tree : FileTree) (path : String) : Except FileFault ByteArray := do
  if path.isEmpty then throw .notFound
  if pathLimit < path.utf8ByteSize then throw .pathTooLong
  let place ← tree.follow (tree.origin path) (Path.components path)
  match tree.node? place with
  | some (.file content) => return content
  | some .directory => throw .isDirectory
  | none => throw .notFound

/-- The content of a file that can be read and is text. -/
def readText? (tree : FileTree) (path : String) : Option String :=
  match tree.read path with
  | .ok content => String.fromUTF8? content
  | .error _ => none

/-- The file may be new, its directory may not. -/
def write (tree : FileTree) (path : String) (content : ByteArray) : Except FileFault FileTree := do
  if path.isEmpty then throw .notFound
  if pathLimit < path.utf8ByteSize then throw .pathTooLong
  let names := Path.components path
  let directory ← tree.follow (tree.origin path) names.dropLast
  match tree.node? directory with
  | some .directory =>
    let name := names.getLast?.getD ""
    if name = "" ∨ name = "." ∨ name = ".." then throw .isDirectory
    match tree.node? (directory ++ [name]) with
    | some .directory => throw .isDirectory
    | _ => return tree.put (directory ++ [name]) (.file content)
  | some (.file _) => throw .notDirectory
  | none => throw .notFound

end FileTree
end CodeMetrics
