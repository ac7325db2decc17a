import OpenCLRegistry.Error
import OpenCLRegistry.VersionSet

/-!
# Languages

A compilation reads its source as C at one of the five versions, or as C++ for
OpenCL. C++ mode may carry any nominal version number, which is kept and never
consulted: all extensions work there at least as in version 2.0.
-/
namespace OpenCLRegistry

inductive Language
  | c (version : Version)
  | cplusplus (nominal : UInt32)
deriving DecidableEq

namespace Language

/-- The version that every decision reads. -/
def effective : Language → Version
  | .c version => version
  | .cplusplus _ => .v20

/-- The version number the configuration names. -/
def nominal : Language → UInt32
  | .c version => version.number
  | .cplusplus nominal => nominal

def isCplusplus : Language → Bool
  | .c _ => false
  | .cplusplus _ => true

/-- The nominal version of a configuration that names none. -/
def unstatedVersion : UInt32 := 100

instance : Inhabited Language := ⟨.c .v10⟩

/-- C++ for OpenCL as it is selected without a version number. -/
def plainCplusplus : Language := .cplusplus 200

/-- Only C mode needs a known version. -/
def ofNumbers (number : UInt32) (cplusplus : Bool) : Except Error Language :=
  if cplusplus then .ok (.cplusplus number)
  else match Version.ofNumber? number with
    | some version => .ok (.c version)
    | none => .error (.unknownVersion number)

theorem ofNumbers_nominal (l : Language) : ofNumbers l.nominal l.isCplusplus = .ok l := by
  cases l with
  | c v => simp [ofNumbers, nominal, isCplusplus, Version.ofNumber?_number]
  | cplusplus n => rfl

theorem nominal_of_ofNumbers {n : UInt32} {b : Bool} {l : Language}
    (h : ofNumbers n b = .ok l) : l.nominal = n ∧ l.isCplusplus = b := by
  cases b with
  | true => cases h; exact ⟨rfl, rfl⟩
  | false =>
    simp only [ofNumbers, Bool.false_eq_true, if_false] at h
    split at h
    · rename_i v hv
      cases h
      exact ⟨Version.number_of_ofNumber? hv, rfl⟩
    · cases h

end Language

end OpenCLRegistry
