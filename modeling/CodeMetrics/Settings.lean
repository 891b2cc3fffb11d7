import CodeMetrics.Options
import CodeMetrics.Json.Decode
/-!
The settings of one call: whether project figures are wanted, and whatever the plugins add.
-/
namespace CodeMetrics

structure Settings where
  skipCalculation : Bool := false
  extra : Entries Json := .empty
  deriving Inhabited

namespace Settings

def skipKey : String := "skipCalculation"

/-- Of the options only the truth value under `skipCalculation` is taken over. -/
def ofOptions (options : Options) : Settings := { skipCalculation := (options.bool? skipKey).getD false }

def bool? (settings : Settings) (key : String) : Option Bool :=
  (settings.extra.find? key).bind Json.bool?

def set (settings : Settings) (key : String) (value : Json) : Settings :=
  { settings with extra := settings.extra.insert key value }

def remove (settings : Settings) (key : String) : Settings :=
  { settings with extra := settings.extra.erase key }

/-- The flag first, then the other entries beside it. -/
def toJson (settings : Settings) : Json :=
  .object ((skipKey, .bool settings.skipCalculation) :: settings.extra.toList)

def ofJson : Json → Decoded Settings
  | .object members => do
    let skip ← match findEntry skipKey members with
      | some value => value.toBool
      | none => pure false
    return { skipCalculation := skip, extra := (Entries.ofList members).erase skipKey }
  | other => other.wrongType "struct AnalysisSettings"

end Settings
end CodeMetrics
