import Probe.Settings.Basic
import Probe.Filter

namespace Probe

variable {φ : Type}

namespace LogSettings

/-- The configured directives. The name of a level may be written in any case, and `warning` is
another name of `warn`. -/
def directives (s : LogSettings) : String :=
  let level := Text.trim s.level
  let name := Text.lower level
  if level = "" then "info"
  else if name ∈ ["trace", "debug", "info", "warn", "error"] then name
  else if name = "warning" then "warn"
  else level

/-- The configured directives, and after them those of the environment unless they are blank. -/
def combined (s : LogSettings) (environment : Option String) : String :=
  match environment.map Text.trim with
  | none => s.directives
  | some "" => s.directives
  | some more => s.directives ++ "," ++ more

/-- Directives of the environment win over configured ones. Invalid ones leave the configured
directives alone in force, and if these are invalid as well, the level is `info`. -/
def filter (s : LogSettings) (reader : FilterReader φ) (environment : Option String) :
    Except FilterError φ :=
  match reader.strict (s.combined environment) with
  | .error .invalid =>
    match reader.strict s.directives with
    | .error .invalid => .ok (reader.lenient "info")
    | configured => configured
  | combined => combined

end LogSettings

/-- Whether each of several loggers set up one after another is installed: only the first is.
Every one of them has its filter read, also if it is not installed. -/
def install (reader : FilterReader φ) (loggers : List LogSettings)
    (environment : Option String) :
    Except FilterError (List Bool) := do
  let filters ← loggers.mapM (·.filter reader environment)
  return filters.mapIdx fun i _ => i == 0

end Probe
