import OpenCLRegistry.Json.Printer
import OpenCLRegistry.VersionSet

/-!
# Sets of versions as text

A set is written as the number that its bits make.
-/
namespace OpenCLRegistry

namespace VersionSet

def tree (s : VersionSet) : Json := .ofWord s.bits

def toText (s : VersionSet) : String := s.tree.compact

end VersionSet

end OpenCLRegistry
