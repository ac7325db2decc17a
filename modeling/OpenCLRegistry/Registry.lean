import OpenCLRegistry.Catalog
import OpenCLRegistry.NameMap

/-!
# The registry

The options known to one compilation, each under its name. A registry starts
with the catalog and both flags of every record clear. Its questions take a name
that may be unknown, and the answer is then no.
-/
namespace OpenCLRegistry

structure Registry where
  records : NameMap Record
deriving DecidableEq

namespace Registry

def ofCatalog (rows : List CatalogRow) : Registry :=
  ⟨.ofPairs (rows.map fun row => (row.name, .ofMetadata row.toMetadata))⟩

/-- The registry before any target or source text has been looked at. -/
def initial : Registry := ofCatalog catalog

def find? (r : Registry) (name : String) : Option Record := r.records.get? name

def size (r : Registry) : Nat := r.records.size

/-- Every known name, ascending. -/
def names (r : Registry) : List String := r.records.names

def isKnown (r : Registry) (name : String) : Bool := r.records.contains name

def isEnabled (r : Registry) (name : String) : Bool := (r.find? name).any (·.enabled)

/-- Supported in this language, as an extension or as a core or optional core feature. -/
def isSupported (r : Registry) (name : String) (l : Language) : Bool :=
  (r.find? name).any (·.supportedIn l)

def isSupportedAsCore (r : Registry) (name : String) (l : Language) : Bool :=
  (r.find? name).any (·.supportedAsCoreIn l)

def isSupportedAsOptionalCore (r : Registry) (name : String) (l : Language) : Bool :=
  (r.find? name).any (·.supportedAsOptionalCoreIn l)

def isSupportedAsFeature (r : Registry) (name : String) (l : Language) : Bool :=
  r.isSupportedAsCore name l || r.isSupportedAsOptionalCore name l

def isSupportedAsExtension (r : Registry) (name : String) (l : Language) : Bool :=
  (r.find? name).any (·.supportedAsExtensionIn l)

@[ext] theorem ext {r s : Registry} (h : ∀ name, r.find? name = s.find? name) : r = s := by
  cases r
  cases s
  exact congrArg _ (NameMap.ext h)

end Registry

end OpenCLRegistry
