import OpenCLRegistry.Text.Quoted

/-!
# Errors

What can go wrong outside the command line's own grammar. A reason that comes
from reading a text or a file is carried as it was worded there.
-/
namespace OpenCLRegistry

inductive Error
  | unknownExtension (name : String)
  | unknownVersion (number : UInt32)
  | invalidFeature (item : String)
  | invalidConfiguration (reason : String)
  | invalidSnapshot (reason : String)
  | unreadableFile (reason : String)
deriving DecidableEq

namespace Error

def message : Error → String
  | .unknownExtension name => "unknown OpenCL extension: " ++ name
  | .unknownVersion number => "unsupported OpenCL C version: " ++ toString number.toNat
  | .invalidFeature item => "invalid feature item: " ++ Text.quoted item
  | .invalidConfiguration reason => "invalid language configuration: " ++ reason
  | .invalidSnapshot reason => "snapshot error: " ++ reason
  | .unreadableFile reason => "io error: " ++ reason

end Error

end OpenCLRegistry
