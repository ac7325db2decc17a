import OpenCLRegistry.Json.Printer
import OpenCLRegistry.Json.Reader
import OpenCLRegistry.Language

/-!
# Languages as text

The written form of a language configuration: an object with a version number and
a flag for C++ mode. When it is read, either may be missing, and a version that C
mode does not know is refused.
-/
namespace OpenCLRegistry

open Json

namespace Language

def tree (l : Language) : Json :=
  .obj [("opencl_version", .ofWord l.nominal), ("opencl_cplusplus", .bool l.isCplusplus)]

def toText (l : Language) : String := l.tree.compact

/-- What a configuration says, before it is known whether there is such a language. -/
structure Numbers where
  version : UInt32 := unstatedVersion
  cplusplus : Bool := false

def Numbers.format : RecordFormat Numbers where
  name := "RawLangOptions"
  fields := [
    ⟨"opencl_version", false, Reader.word.map fun version n => { n with version }⟩,
    ⟨"opencl_cplusplus", false, Reader.flag.map fun cplusplus n => { n with cplusplus }⟩]
  start := {}

def Numbers.language (n : Numbers) : Except Error Language := ofNumbers n.version n.cplusplus

def ofText (text : String) : Except Error Language :=
  (readDocument Numbers.format.reader (fun n => n.language.mapError Error.message) text).mapError
    .invalidConfiguration

end Language

end OpenCLRegistry
