import CodeMetrics.Schema
/-!
What can go wrong, by cause, and how it is worded.
-/
namespace CodeMetrics

/-- Why a module could not be analyzed: its tree is malformed, it uses what the analyzer does not
handle, or something else went wrong inside the analyzer. -/
inductive AnalyzerErrorKind where
  | malformed
  | unsupported
  | internal
  deriving DecidableEq

def AnalyzerErrorKind.name : AnalyzerErrorKind → String
  | .malformed => "syntax"
  | .unsupported => "unsupported"
  | .internal => "internal"

structure AnalyzerError where
  kind : AnalyzerErrorKind
  message : String
  deriving DecidableEq

/-- The same failure, told of a part of something larger. -/
def AnalyzerError.within (place : String) (error : AnalyzerError) : AnalyzerError :=
  { error with message := s!"{place}: {error.message}" }

/-- What a collaborator said when it failed, and below that what it had been told itself. -/
structure Complaint where
  text : String
  reasons : List String := []
  deriving DecidableEq

def Complaint.inContext (context : String) (complaint : Complaint) : Complaint :=
  ⟨context, complaint.text :: complaint.reasons⟩

inductive BadArgument where
  | optionsNotObject (found : String)
  | resultsNotObject (found : String)
  | resultsMalformed (error : DecodeError)
  | missingPath (index : Nat)
  | other (message : String)
  deriving DecidableEq

def BadArgument.message : BadArgument → String
  | .optionsNotObject found => s!"`options` is not an object (got {found})"
  | .resultsNotObject found => s!"`results` is not an object (got {found})"
  | .resultsMalformed error =>
    let detail := error.message
    s!"`results` is malformed: {detail}"
  | .missingPath index => s!"module {index} has a missing or empty `src_path`"
  | .other message => message

inductive Failure where
  | invalidArgument (cause : BadArgument)
  | moduleAnalysis (path : String) (error : AnalyzerError)
  | collaborator (complaint : Complaint)
  | configuration (message : String) (path : Option String)
  | storage (complaint : Complaint)
  | notJson
  deriving DecidableEq

namespace Failure

def category : Failure → String
  | .invalidArgument _ => "InvalidArgument"
  | .moduleAnalysis .. => "ModuleAnalysisFailure"
  | .collaborator _ => "CollaboratorFailure"
  | .configuration .. => "Config"
  | .storage _ => "I/O"
  | .notJson => "JSON"

/-- A failure of a collaborator or of storage is told in its own words; for text that is not JSON
there are no words. -/
def message? : Failure → Option String
  | .invalidArgument cause =>
    let detail := cause.message
    some s!"Invalid argument: {detail}"
  | .moduleAnalysis path error => some (error.within path).message
  | .collaborator complaint => some complaint.text
  | .configuration message _ => some s!"Configuration error: {message}"
  | .storage complaint => some complaint.text
  | .notJson => none

def isInvalidArgument : Failure → Bool
  | .invalidArgument _ => true
  | _ => false

/-- The failure below this one, in words. -/
def source? : Failure → Option String
  | .moduleAnalysis _ error => some error.message
  | .collaborator complaint => complaint.reasons.head?
  | .storage complaint => complaint.reasons.head?
  | _ => none

/-- The path of the module that could not be analyzed. -/
def modulePath? : Failure → Option String
  | .moduleAnalysis path _ => some path
  | _ => none

/-- The path of the configuration file at fault. -/
def configurationPath? : Failure → Option String
  | .configuration _ path => path
  | _ => none

/-- The analyzer's failure, of the same kind, told of the module's path. -/
def analyzerError? : Failure → Option AnalyzerError
  | .moduleAnalysis path error => some (error.within path)
  | _ => none

end Failure
end CodeMetrics
