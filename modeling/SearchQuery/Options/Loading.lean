import SearchQuery.Event
import SearchQuery.Options.Environment

/-!
# Loading search options

Loading reads the environment and reports the options once all of it was read.
-/

namespace SearchQuery.Options

def load (env : Environment) : Traced (Except ConfigError Options) :=
  match ofEnvironment env with
  | .ok options => do
    Traced.report (.optionsLoaded options)
    return .ok options
  | .error fault => pure (.error fault)

end SearchQuery.Options
