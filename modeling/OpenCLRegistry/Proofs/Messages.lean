import OpenCLRegistry.Error
import OpenCLRegistry.Proofs.Text.Quotation

/-!
# What messages determine

A message is a heading for the kind of error and a text for what the error carries. No
heading begins another one, and each kind words what it carries in its own way without
loss. So a message determines its error, and a malformed item is shown on one line.
-/
namespace OpenCLRegistry.Error

/-- The beginning of a message, one for each kind of error. -/
def heading : Error → String
  | .unknownExtension _ => "unknown OpenCL extension: "
  | .unknownVersion _ => "unsupported OpenCL C version: "
  | .invalidFeature _ => "invalid feature item: "
  | .invalidConfiguration _ => "invalid language configuration: "
  | .invalidSnapshot _ => "snapshot error: "
  | .unreadableFile _ => "io error: "

/-- The rest of a message, which words what the error carries. -/
def detail : Error → String
  | .unknownVersion number => toString number.toNat
  | .invalidFeature item => Text.quoted item
  | .unknownExtension carried | .invalidConfiguration carried | .invalidSnapshot carried
  | .unreadableFile carried => carried

theorem message_eq (e : Error) : e.message = e.heading ++ e.detail := by cases e <;> rfl

def headings : List String :=
  ["unknown OpenCL extension: ", "unsupported OpenCL C version: ", "invalid feature item: ",
    "invalid language configuration: ", "snapshot error: ", "io error: "]

theorem heading_mem (e : Error) : e.heading ∈ headings := by cases e <;> simp [heading, headings]

theorem headings_prefix_free :
    ∀ first ∈ headings, ∀ second ∈ headings, first.toList <+: second.toList → first = second := by
  decide +kernel

/-- Of two headings at the same place one would begin the other. -/
theorem heading_eq_of_message_eq {e f : Error} (same : e.message = f.message) :
    e.heading = f.heading := by
  have front (e : Error) : e.heading.toList <+: e.message.toList := by
    rw [message_eq, String.toList_append]
    exact List.prefix_append ..
  rcases List.prefix_or_prefix_of_prefix (front e) (same ▸ front f) with begins | begins
  · exact headings_prefix_free _ e.heading_mem _ f.heading_mem begins
  · exact (headings_prefix_free _ f.heading_mem _ e.heading_mem begins).symm

theorem toString_word_injective {m n : UInt32} (same : toString m.toNat = toString n.toNat) :
    m = n := by
  rw [Nat.toString_eq_ofList_toDigits, Nat.toString_eq_ofList_toDigits] at same
  have read := congrArg (Nat.ofDigitChars 10 · 0) (String.ofList_injective same)
  simp only [Nat.ofDigitChars_ten_toDigits] at read
  exact UInt32.toNat_inj.mp read

theorem eq_of_parts {e f : Error} (heading : e.heading = f.heading)
    (detail : e.detail = f.detail) : e = f := by
  cases e with
  | unknownExtension name =>
    cases f with
    | unknownExtension => exact congrArg unknownExtension detail
    | _ => simp [Error.heading] at heading
  | unknownVersion number =>
    cases f with
    | unknownVersion => exact congrArg unknownVersion (toString_word_injective detail)
    | _ => simp [Error.heading] at heading
  | invalidFeature item =>
    cases f with
    | invalidFeature => exact congrArg invalidFeature (Text.quoted_injective detail)
    | _ => simp [Error.heading] at heading
  | invalidConfiguration reason =>
    cases f with
    | invalidConfiguration => exact congrArg invalidConfiguration detail
    | _ => simp [Error.heading] at heading
  | invalidSnapshot reason =>
    cases f with
    | invalidSnapshot => exact congrArg invalidSnapshot detail
    | _ => simp [Error.heading] at heading
  | unreadableFile reason =>
    cases f with
    | unreadableFile => exact congrArg unreadableFile detail
    | _ => simp [Error.heading] at heading

theorem message_injective : Function.Injective message := by
  intro e f same
  have heading := heading_eq_of_message_eq same
  rw [message_eq, message_eq, heading] at same
  exact eq_of_parts heading ((String.append_right_inj _).mp same)

theorem not_breaking_of_mem_message {item : String} {c : Char}
    (mem : c ∈ (invalidFeature item).message.toList) : c ∉ Text.breaking := by
  rw [message_eq, String.toList_append, List.mem_append] at mem
  rcases mem with front | shown
  · have plain : ∀ c ∈ "invalid feature item: ".toList, c ∉ Text.breaking := by
      simp [Text.breaking]
    exact plain c front
  · exact Text.not_breaking_of_mem_quoted shown

/-- Errors with the same message are the same, whatever they carry. An item is determined by the
way it is quoted, and the message on a malformed item never breaks the line. -/
theorem message_identifies (e f : Error) (item other : String) :
    (e.message = f.message ↔ e = f) ∧
    (Text.quoted item = Text.quoted other ↔ item = other) ∧
    '\n' ∉ (invalidFeature item).message.toList ∧
    '\r' ∉ (invalidFeature item).message.toList ∧
    '\t' ∉ (invalidFeature item).message.toList ∧
    '\x00' ∉ (invalidFeature item).message.toList := by
  have absent {c : Char} (raw : c ∈ Text.breaking) : c ∉ (invalidFeature item).message.toList :=
    fun mem => not_breaking_of_mem_message mem raw
  exact ⟨message_injective.eq_iff, Text.quoted_injective.eq_iff, absent (by decide),
    absent (by decide), absent (by decide), absent (by decide)⟩

end OpenCLRegistry.Error
