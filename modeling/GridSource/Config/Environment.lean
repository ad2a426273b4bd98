/-!
# Environment

The variables of a process: a list of names with one value each.
-/

namespace GridSource

abbrev Environment := List (String × String)

namespace Environment

def without (environment : Environment) (name : String) : Environment :=
  environment.filter fun entry => entry.1 != name

def set (environment : Environment) (name value : String) : Environment :=
  (without environment name) ++ [(name, value)]

end Environment

end GridSource
