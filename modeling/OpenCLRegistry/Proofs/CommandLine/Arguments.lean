import OpenCLRegistry.CommandLine.Arguments
import Mathlib.Data.List.TakeWhile

/-!
# What single arguments say

An argument that begins with two dashes is a name up to the first equals sign, or
a name with a value. Only such arguments make a setting or open one.
-/
namespace OpenCLRegistry

/-- Numbers are read from their decimal digits. -/
theorem readNumber?_toString (n : UInt32) : readNumber? (toString n.toNat).toList = some n := by
  have text : (toString n.toNat).toList = Nat.toDigits 10 n.toNat := by
    rw [Nat.toString_eq_ofList_toDigits, String.toList_ofList]
  have digit : ∀ c ∈ Nat.toDigits 10 n.toNat, c.isDigit = true :=
    fun _ mem => Nat.isDigit_of_mem_toDigits (by decide) (by decide) mem
  have unsigned (sign : Char) (apart : sign.isDigit = false) :
      (Nat.toDigits 10 n.toNat).head? ≠ some sign := by
    intro front
    rw [digit sign (List.mem_of_head? front)] at apart
    cases apart
  have plus := unsigned '+' (by decide)
  have minus := unsigned '-' (by decide)
  have digits : (Nat.toDigits 10 n.toNat).all Char.isDigit = true := List.all_eq_true.mpr digit
  have nonempty : Nat.toDigits 10 n.toNat ≠ [] := Nat.toDigits_ne_nil
  have fits : n.toNat < UInt32.size := n.toNat_lt_size
  rw [text]
  simp only [readNumber?, plus, minus, or_self, if_false, nonempty, ne_eq, not_false_eq_true,
    digits, Nat.ofDigitChars_ten_toDigits, fits, and_self, if_true, UInt32.ofNat_toNat]

namespace Argument

theorem ofText_long {arg : String} {long : List Char} (nonempty : long ≠ [])
    (text : arg.toList = '-' :: '-' :: long) :
    ofText arg =
      match long.drop (long.takeWhile (· ≠ '=')).length with
      | [] => ofName (String.ofList (long.takeWhile (· ≠ '=')))
      | _ :: value =>
        ofNameAndValue (String.ofList (long.takeWhile (· ≠ '='))) (String.ofList value) := by
  obtain ⟨c, rest, rfl⟩ := List.exists_cons_of_ne_nil nonempty
  rw [ofText, text]
  rfl

theorem takeWhile_plain {name : List Char} (plain : '=' ∉ name) :
    name.takeWhile (· ≠ '=') = name :=
  List.takeWhile_eq_self_iff.mpr fun c mem => by simpa using ne_of_mem_of_not_mem mem plain

theorem ofText_name {name : String} (nonempty : name ≠ "") (plain : '=' ∉ name.toList) :
    ofText ("--" ++ name) = ofName name := by
  have long : name.toList ≠ [] := mt String.toList_eq_nil_iff.mp nonempty
  rw [ofText_long long (by simp), takeWhile_plain plain, List.drop_length, String.ofList_toList]

theorem ofText_nameAndValue {name value : String} (plain : '=' ∉ name.toList) :
    ofText ("--" ++ name ++ "=" ++ value) = ofNameAndValue name value := by
  have taken : (name.toList ++ '=' :: value.toList).takeWhile (· ≠ '=') = name.toList := by
    rw [List.takeWhile_append_of_pos (List.takeWhile_eq_self_iff.mp (takeWhile_plain plain))]
    simp
  have text : ("--" ++ name ++ "=" ++ value).toList =
      '-' :: '-' :: (name.toList ++ '=' :: value.toList) := by simp
  rw [ofText_long (by simp) text, taken, List.drop_left, String.ofList_toList]
  exact congrArg (ofNameAndValue name) String.ofList_toList

/-- What follows two dashes is a name, or a name with a value. -/
theorem name_or_nameAndValue (long : List Char) :
    '=' ∉ long ∨ ∃ name value, '=' ∉ name ∧ long = name ++ '=' :: value := by
  induction long with
  | nil => exact .inl List.not_mem_nil
  | cons c rest ih =>
    by_cases equals : c = '='
    · exact .inr ⟨[], rest, List.not_mem_nil, by rw [equals]; rfl⟩
    · rcases ih with plain | ⟨name, value, plain, rfl⟩
      · exact .inl (by simp [Ne.symm equals, plain])
      · exact .inr ⟨c :: name, value, by simp [Ne.symm equals, plain], rfl⟩

/-- An argument that makes a setting or opens one is a name, with or without a value. -/
theorem named_of_ofText {arg : String}
    (heard : (∃ s, ofText arg = .setting s) ∨ ∃ key, ofText arg = .opens key) :
    (∃ name, name ≠ "" ∧ '=' ∉ name.toList ∧ arg = "--" ++ name) ∨
      ∃ name value, '=' ∉ name.toList ∧ arg = "--" ++ name ++ "=" ++ value := by
  have dashes : ∃ long, long ≠ [] ∧ arg.toList = '-' :: '-' :: long := by
    unfold ofText at heard
    split at heard
    · simp at heard
    · rename_i long more text
      exact ⟨long, more, text⟩
    · simp at heard
    · simp at heard
  obtain ⟨long, nonempty, text⟩ := dashes
  rcases name_or_nameAndValue long with plain | ⟨name, value, plain, rfl⟩
  · refine .inl ⟨String.ofList long, by simpa using nonempty, by simpa using plain, ?_⟩
    apply String.toList_inj.mp
    simp [text]
  · refine .inr ⟨String.ofList name, String.ofList value, by simpa using plain, ?_⟩
    apply String.toList_inj.mp
    simp [text]

theorem ofText_version (n : UInt32) :
    ofText ("--cl-std=" ++ toString n.toNat) = .setting (.version n) := by
  have name : "--cl-std=" = "--" ++ "cl-std" ++ "=" := by decide
  rw [name, ofText_nameAndValue (by decide)]
  simp only [ofNameAndValue, OptionKey.ofName?, Option.bind_some, OptionKey.setting?,
    readNumber?_toString, Option.map_some]

theorem ofText_cplusplus : ofText "--cpp" = .setting .cplusplus := by
  have name : "--cpp" = "--" ++ "cpp" := by decide
  rw [name, ofText_name (by decide) (by decide)]
  rfl

end Argument

end OpenCLRegistry
