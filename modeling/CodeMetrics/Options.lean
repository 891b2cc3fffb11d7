import CodeMetrics.Json.Basic
import CodeMetrics.Failure
/-!
What a caller asks for, by key. Analyzers and plugins look up the keys they know; nothing else about
the options is looked at.
-/
namespace CodeMetrics

structure Options where
  entries : Entries Json

namespace Options

def empty : Options := ⟨.empty⟩

instance : Inhabited Options := ⟨empty⟩

def find? (options : Options) (key : String) : Option Json := options.entries.find? key

/-- Only a truth value counts; anything else reads as absent. -/
def bool? (options : Options) (key : String) : Option Bool := (options.find? key).bind Json.bool?

def insert (options : Options) (key : String) (value : Json) : Options :=
  ⟨options.entries.insert key value⟩

def isEmpty (options : Options) : Bool := options.entries.isEmpty

theorem find?_insert (options : Options) (key other : String) (value : Json) :
    (options.insert key value).find? other =
      if other = key then some value else options.find? other :=
  options.entries.find?_insert key other value

def toJson (options : Options) : Json := .object options.entries.toList

def ofJson : Json → Except Failure Options
  | .object members => .ok ⟨.ofList members⟩
  | other => .error (.invalidArgument (.optionsNotObject other.kindName))

end Options
end CodeMetrics
