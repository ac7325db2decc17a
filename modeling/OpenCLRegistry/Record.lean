import OpenCLRegistry.Language

/-!
# Metadata and records

What is known of one extension or feature: the first version that has it, the
versions in which it is core, and those in which it is optional core. A record
adds the two flags that a compilation changes. A version before the first one
counts for nothing, whatever the sets say.
-/
namespace OpenCLRegistry

structure Metadata where
  /-- The number of the first version that has the option. -/
  since : UInt32 := 100
  core : VersionSet := .empty
  optionalCore : VersionSet := .empty
deriving DecidableEq

namespace Metadata

def isCore (m : Metadata) : Bool := !m.core.isEmpty

def isOptionalCore (m : Metadata) : Bool := !m.optionalCore.isEmpty

def availableIn (m : Metadata) (l : Language) : Bool := m.since ≤ l.effective.number

def coreIn (m : Metadata) (l : Language) : Bool := m.availableIn l && m.core.has l.effective

def optionalCoreIn (m : Metadata) (l : Language) : Bool :=
  m.availableIn l && m.optionalCore.has l.effective

end Metadata

structure Record extends Metadata where
  supported : Bool := false
  enabled : Bool := false
deriving DecidableEq

namespace Record

/-- A record with both flags clear. -/
def ofMetadata (m : Metadata) : Record := { m with }

/-- A core or optional core feature counts when it is supported; an extension
has to be enabled as well. -/
def supportedIn (r : Record) (l : Language) : Bool :=
  r.supported &&
    (r.coreIn l || r.optionalCoreIn l ||
      r.enabled && r.availableIn l && !r.coreIn l && !r.optionalCoreIn l)

def supportedAsCoreIn (r : Record) (l : Language) : Bool := r.supportedIn l && r.coreIn l

/-- Core wins where both sets cover the version. -/
def supportedAsOptionalCoreIn (r : Record) (l : Language) : Bool :=
  r.supportedIn l && r.optionalCoreIn l && !r.coreIn l

def supportedAsExtensionIn (r : Record) (l : Language) : Bool :=
  r.supportedIn l && !r.coreIn l && !r.optionalCoreIn l

end Record

end OpenCLRegistry
