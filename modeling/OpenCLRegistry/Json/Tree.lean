/-!
# JSON values

The value that a JSON text stands for, as far as the program writes such texts:
its numbers are integers. An object keeps its members in order, and a key may
occur more than once.
-/
namespace OpenCLRegistry

inductive Json
  | null
  | bool (value : Bool)
  | int (value : Int)
  | str (value : String)
  | arr (items : List Json)
  | obj (members : List (String × Json))

namespace Json

def ofWord (n : UInt32) : Json := .int n.toNat

end Json

end OpenCLRegistry
