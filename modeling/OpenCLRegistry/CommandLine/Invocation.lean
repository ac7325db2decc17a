/-!
# Invocations

What a command line asks for, built up from one setting after another. Every
setting may be made once, except that extensions are enabled in any number and
that each mark of verbosity adds to the ones before.
-/
namespace OpenCLRegistry

inductive Setting
  | version (number : UInt32)
  | cplusplus
  | configuration (path : String)
  | features (list : String)
  | enable (name : String)
  | clearEnabled
  | enableCore
  | query (name : String)
  | verbose
deriving DecidableEq

structure Invocation where
  version : Option UInt32 := none
  cplusplus : Bool := false
  configuration : Option String := none
  features : Option String := none
  /-- The names to enable, in the order in which they were given. -/
  enables : List String := []
  clearEnabled : Bool := false
  enableCore : Bool := false
  query : Option String := none
  verbosity : Nat := 0
deriving DecidableEq

namespace Invocation

/-- Makes a setting, unless it has been made before. -/
def set? (i : Invocation) : Setting → Option Invocation
  | .version number => if i.version = none then some { i with version := some number } else none
  | .cplusplus => if i.cplusplus then none else some { i with cplusplus := true }
  | .configuration path =>
    if i.configuration = none then some { i with configuration := some path } else none
  | .features list => if i.features = none then some { i with features := some list } else none
  | .enable name => some { i with enables := i.enables ++ [name] }
  | .clearEnabled => if i.clearEnabled then none else some { i with clearEnabled := true }
  | .enableCore => if i.enableCore then none else some { i with enableCore := true }
  | .query name => if i.query = none then some { i with query := some name } else none
  | .verbose => some { i with verbosity := i.verbosity + 1 }

end Invocation

end OpenCLRegistry
