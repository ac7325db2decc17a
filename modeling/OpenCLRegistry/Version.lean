/-!
# Language versions

The five versions of OpenCL C that the registry can tell apart, oldest first,
and the numbers by which configurations name them. Nothing here knows about
C++ mode; `Language` decides which version it reads as.
-/
namespace OpenCLRegistry

inductive Version
  | v10 | v11 | v12 | v20 | v30
deriving DecidableEq

namespace Version

/-- Every version, oldest first. -/
def all : List Version := [.v10, .v11, .v12, .v20, .v30]

/-- A hundred times the version: 1.2 is written 120. -/
def number : Version → UInt32
  | .v10 => 100
  | .v11 => 110
  | .v12 => 120
  | .v20 => 200
  | .v30 => 300

def ofNumber? (n : UInt32) : Option Version := all.find? fun v => v.number == n

theorem mem_all (v : Version) : v ∈ all := by cases v <;> decide

theorem number_injective {v w : Version} (h : v.number = w.number) : v = w := by
  revert h; cases v <;> cases w <;> decide

theorem ofNumber?_number (v : Version) : ofNumber? v.number = some v := by
  cases v <;> decide

theorem number_of_ofNumber? {n : UInt32} {v : Version} (h : ofNumber? n = some v) :
    v.number = n := by
  simpa using List.find?_some h

end Version

end OpenCLRegistry
