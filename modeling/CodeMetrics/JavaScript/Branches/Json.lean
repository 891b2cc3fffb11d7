import CodeMetrics.JavaScript.Branches
import CodeMetrics.Json.Decode
/-!
Branch rules as documents. A rule that is not given has its default.
-/
namespace CodeMetrics.JavaScript.BranchRules

def typeName : String := "JavaScriptConfig"

def schema {ν : Type} (toBool : ν → Decoded Bool) : Schema ν BranchRules :=
  let standard : BranchRules := {}
  (Schema.build BranchRules.mk).and (.optional standard.logicalor "logicalor" toBool)
    |>.and (.optional standard.switchcase "switchcase" toBool)
    |>.and (.optional standard.forin "forin" toBool)
    |>.and (.optional standard.trycatch "trycatch" toBool)

def ofJson : Json → Decoded BranchRules := Json.toRecord typeName (schema Json.toBool)

def toJson (rules : BranchRules) : Json :=
  .object [
    ("logicalor", .bool rules.logicalor),
    ("switchcase", .bool rules.switchcase),
    ("forin", .bool rules.forin),
    ("trycatch", .bool rules.trycatch)]

end CodeMetrics.JavaScript.BranchRules
