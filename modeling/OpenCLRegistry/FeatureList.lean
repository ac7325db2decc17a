import OpenCLRegistry.Registry.Update
import OpenCLRegistry.Text.Blank

/-!
# Feature lists

A target's features can be written as a list such as "-all,+cl_khr_fp64". An
item is a sign and a name, items are separated by commas, and blanks around an
item do not count. The name "all" stands for every option that the registry
knows. Later items override earlier ones. The first malformed item stops the
reading; what the items before it said has by then been applied.
-/
namespace OpenCLRegistry

/-- An item: switch one feature, or every known one, on or off. -/
inductive FeatureItem
  | named (name : String) (value : Bool)
  | all (value : Bool)
deriving DecidableEq

namespace FeatureItem

/-- The item for a sign and a name. A name may begin with a sign or a blank. -/
def ofName? (value : Bool) (name : List Char) : Option FeatureItem :=
  if name = [] then none
  else if name = "all".toList then some (.all value)
  else some (.named (String.ofList name) value)

def ofText? : List Char → Option FeatureItem
  | '+' :: name => ofName? true name
  | '-' :: name => ofName? false name
  | _ => none

/-- What the item writes, given the known names. -/
def settings (known : List String) : FeatureItem → List (String × Bool)
  | .named name value => [(name, value)]
  | .all value => known.map fun name => (name, value)

def apply (known : Registry) (features : TargetFeatures) (item : FeatureItem) : TargetFeatures :=
  features.insertAll (item.settings known.names)

end FeatureItem

namespace TargetFeatures

/-- The texts of a list's items, trimmed; a piece that is blank is no item. -/
def items (list : String) : List (List Char) :=
  ((list.toList.splitOn ',').map Text.trim).filter fun item => !item.isEmpty

/-- Applies items up to the first malformed one, which is returned with what the
features have become. -/
def applyItems (known : Registry) :
    List (List Char) → TargetFeatures → TargetFeatures × Option Error
  | [], features => (features, none)
  | item :: rest, features =>
    match FeatureItem.ofText? item with
    | some i => applyItems known rest (i.apply known features)
    | none => (features, some (.invalidFeature (String.ofList item)))

/-- Applies a list on top of features; the features change also when an error is returned. -/
def applyList (known : Registry) (list : String) (features : TargetFeatures) :
    TargetFeatures × Option Error :=
  applyItems known (items list) features

/-- The features that a list says by itself. -/
def ofList (known : Registry) (list : String) : Except Error TargetFeatures :=
  match applyList known list .empty with
  | (features, none) => .ok features
  | (_, some e) => .error e

end TargetFeatures

end OpenCLRegistry
