import CodeMetrics.FileTree
import CodeMetrics.Json.Document
import CodeMetrics.Json.Printer
import CodeMetrics.Result.Json
/-!
Results kept in files, to be taken up again by a later run.
-/
namespace CodeMetrics.ProjectResult

def fileText (result : ProjectResult) : String := result.toJson.pretty

def ofFileContent (content : ByteArray) : Except Failure ProjectResult :=
  match Json.readBytes? content with
  | some value => ofJson value
  | none => .error .notJson

def storageFailure (fault : FileFault) : Failure := .storage ⟨fault.message, []⟩

def save (result : ProjectResult) (files : FileTree) (path : String) : Except Failure FileTree :=
  (files.write path result.fileText.toUTF8).mapError storageFailure

def load (files : FileTree) (path : String) : Except Failure ProjectResult :=
  match files.read path with
  | .ok content => ofFileContent content
  | .error fault => .error (storageFailure fault)

end CodeMetrics.ProjectResult
