import OpenCLRegistry.Json.Reader
import OpenCLRegistry.Proofs.Json.Integers
import OpenCLRegistry.Proofs.Json.Skipping
import Mathlib.Data.List.Forall2
import Mathlib.Data.Nat.Init

/-!
# Readers as functions of the value

What a typed reader makes of a text depends only on the value that is spelt: on
every spelling it returns what the value stands for, with the text after it, or
refuses the text if the value stands for nothing of the wanted type. The faults
are not told apart.
-/
namespace OpenCLRegistry.Json

/-! ## What a value stands for -/

/-- An integer that fits in 32 bits. -/
def word? : Json → Option UInt32
  | .int n => if 0 ≤ n ∧ n < UInt32.size then some (UInt32.ofNat n.toNat) else none
  | _ => none

def flag? : Json → Option Bool
  | .bool value => some value
  | _ => none

def text? : Json → Option String
  | .str value => some value
  | _ => none

def list? {α : Type} (item? : Json → Option α) : Json → Option (List α)
  | .arr items => items.mapM item?
  | _ => none

/-! ## What the first character tells -/

theorem Opens.not_numeral {j : Json} {c : Char} (h : Opens j c) (other : ∀ n, j ≠ .int n) :
    (c == '-' || c.isDigit) = false := by
  cases j with
  | int n => exact absurd rfl (other n)
  | bool value => cases value <;> cases h <;> rfl
  | _ => cases h; rfl

/-- Each of these characters begins the texts of one kind of value only. -/
theorem Opens.shape {j : Json} {c : Char} (h : Opens j c) :
    match c with
    | 't' => j = .bool true
    | 'f' => j = .bool false
    | '"' => ∃ s, j = .str s
    | '[' => ∃ items, j = .arr items
    | '\x7b' => ∃ members, j = .obj members
    | _ => True := by
  split
  all_goals
    cases j with
    | bool value => cases value <;> simp_all [Opens]
    | _ => simp_all [Opens]

namespace Reader

variable {α β : Type}

/-- The reader returns what a spelt value stands for, or refuses the value. -/
def Decodes (reader : Reader α) (decode : Json → Option α) : Prop :=
  ∀ ⦃j : Json⦄ ⦃b t r : List Char⦄, Blank b → Spells (.value j) t → Ends r →
    (reader.read (b ++ (t ++ r))).toOption = (decode j).map (·, r)

/-- A reading whose outcome is known apart from its fault. -/
theorem outcome_of_toOption {x : Reading α} {a? : Option α} {r : List Char}
    (h : x.toOption = a?.map (·, r)) :
    (∃ f, x = .error f ∧ a? = none) ∨ ∃ a, x = .ok (a, r) ∧ a? = some a := by
  cases x with
  | error f =>
    cases a? with
    | none => exact .inl ⟨f, rfl, rfl⟩
    | some a => cases h
  | ok result =>
    cases a? with
    | none => cases h
    | some a =>
      cases h
      exact .inr ⟨a, rfl, rfl⟩

theorem Decodes.outcome {reader : Reader α} {decode : Json → Option α} (h : reader.Decodes decode)
    {j : Json} {b t r : List Char} (hb : Blank b) (ht : Spells (.value j) t) (ends : Ends r) :
    (∃ f, reader.read (b ++ (t ++ r)) = .error f ∧ decode j = none) ∨
      ∃ a, reader.read (b ++ (t ++ r)) = .ok (a, r) ∧ decode j = some a :=
  outcome_of_toOption (h hb ht ends)

/-- An integer is read as a word if and only if it is one, and as the same one. -/
theorem readNumeral_word? (n : Int) (ends : Ends r) :
    (match readNumeral (intText n ++ r) with
      | .error f => .error f
      | .ok (.integer k, s) =>
        if 0 ≤ k ∧ k < UInt32.size then .ok (UInt32.ofNat k.toNat, s)
        else .error (.here (.integerOutOfRange k) s)
      | .ok (.decimal x, s) =>
        .error (.here (.wrongType (.decimal x) .word) s) : Reading UInt32).toOption =
      (word? (.int n)).map (·, r) := by
  by_cases fits : 0 ≤ n ∧ n < UInt32.size
  · have small : n < UInt64.size := Int.lt_trans fits.2 (by decide)
    rw [readNumeral_word ends fits.1 small, word?, if_pos fits]
    dsimp only
    rw [if_pos fits]
    rfl
  · rw [word?, if_neg fits]
    cases read : readNumeral (intText n ++ r) with
    | error f => rfl
    | ok result =>
      obtain ⟨numeral, s⟩ := result
      cases numeral with
      | decimal x => rfl
      | integer k =>
        obtain ⟨rfl, -⟩ := eq_of_readNumeral ends read
        dsimp only
        rw [if_neg fits]
        rfl

theorem decodes_word : word.Decodes word? := by
  intro j b t r hb ht ends
  change (readWord _).toOption = _
  obtain ⟨c, s, text, opens⟩ := ht.opens
  have token := skipSpace_token hb opens.token.1 (s ++ r)
  rw [← List.cons_append, ← text] at token
  have first : (t ++ r).head? = some c := by rw [text]; rfl
  rw [readWord, token, first, Option.any_some]
  cases j with
  | int n =>
    cases ht
    have digit : (c == '-' || c.isDigit) = true := by simpa [Opens] using opens
    rw [if_pos digit]
    exact readNumeral_word? n ends
  | _ =>
    rw [opens.not_numeral (by intro n eq; cases eq)]
    rfl

theorem decodes_flag : flag.Decodes flag? := by
  intro j b t r hb ht ends
  obtain ⟨c, s, rfl, opens⟩ := ht.opens
  change (readFlag _).toOption = _
  rw [readFlag, List.cons_append, skipSpace_token hb opens.token.1]
  split
  · rename_i eq
    cases eq
    obtain rfl : j = .bool true := opens.shape
    cases ht
    rw [readLetters_append ['r', 'u', 'e'] r]
    rfl
  · rename_i eq
    cases eq
    obtain rfl : j = .bool false := opens.shape
    cases ht
    rw [readLetters_append ['a', 'l', 's', 'e'] r]
    rfl
  · rename_i notTrue notFalse
    cases j with
    | bool value =>
      cases value with
      | true => exact absurd (opens ▸ rfl) (notTrue (s ++ r))
      | false => exact absurd (opens ▸ rfl) (notFalse (s ++ r))
    | _ => rfl

theorem decodes_text : text.Decodes text? := by
  intro j b t r hb ht ends
  obtain ⟨c, s, rfl, opens⟩ := ht.opens
  change (readText _).toOption = _
  rw [readText, List.cons_append, skipSpace_token hb opens.token.1]
  split
  · rename_i eq
    cases eq
    obtain ⟨value, rfl⟩ : ∃ s, j = .str s := opens.shape
    cases ht with
    | str hs =>
      rw [readString_spelt hs]
      dsimp only
      rw [String.ofList_toList]
      rfl
  · rename_i notText
    cases j with
    | str value => exact absurd (opens ▸ rfl) (notText (s ++ r))
    | _ => rfl

theorem Decodes.map {reader : Reader α} {decode : Json → Option α} (h : reader.Decodes decode)
    (f : α → β) : (reader.map f).Decodes fun j => (decode j).map f := by
  intro j b t r hb ht ends
  dsimp only [Reader.map]
  rcases h.outcome hb ht ends with ⟨fault, read, value⟩ | ⟨a, read, value⟩
  · rw [read, value]
    rfl
  · rw [read, value]
    rfl

section
variable {item : Reader α} {decode : Json → Option α} (h : item.Decodes decode)
include h

/-- One item, once it is known that there is one and that the others are read. -/
theorem readItems_another {first : Bool} {j : Json} {rest : List Json} {s b t u r : List Char}
    (next : nextItem first s = .ok (.another (b ++ (t ++ (u ++ r))))) (hb : Blank b)
    (ht : Spells (.value j) t) (hu : Spells (.items rest) u)
    (later : (item.readItems false (u ++ r)).toOption = (rest.mapM decode).map (·, r)) :
    (item.readItems first s).toOption = ((j :: rest).mapM decode).map (·, r) := by
  rw [readItems, next, List.mapM_cons]
  dsimp only
  rcases h.outcome hb ht (hu.ends_items r) with ⟨f, read, value⟩ | ⟨a, read, value⟩
  · rw [read, value]
    rfl
  · rw [read, value]
    dsimp only
    rcases outcome_of_toOption later with ⟨f, read, values⟩ | ⟨as, read, values⟩
    · rw [read, values]
      rfl
    · rw [read, values]
      rfl

theorem readItems_spelt (rest : List Json) {u : List Char} (hu : Spells (.items rest) u)
    (r : List Char) : (item.readItems false (u ++ r)).toOption = (rest.mapM decode).map (·, r) := by
  induction rest generalizing u with
  | nil =>
    cases hu with
    | noItem hb =>
      rw [List.append_assoc, readItems, List.singleton_append, nextItem_close hb]
      rfl
  | cons j rest ih =>
    cases hu with
    | item hb hd ht hv =>
      obtain ⟨c, s, rfl, opens⟩ := ht.opens
      refine readItems_another h ?_ blank_nil ht hv (ih hv)
      simp only [List.cons_append, List.append_assoc, List.nil_append]
      exact nextItem_later hb hd opens _

theorem Decodes.list : item.list.Decodes (list? decode) := by
  intro j b t r hb ht ends
  obtain ⟨c, s, rfl, opens⟩ := ht.opens
  change (item.readList _).toOption = _
  rw [readList, List.cons_append, skipSpace_token hb opens.token.1]
  split
  · rename_i eq
    cases eq
    obtain ⟨items, rfl⟩ : ∃ items, j = .arr items := opens.shape
    cases ht with
    | emptyList hd =>
      rw [List.append_eq, List.append_assoc, readItems, List.singleton_append, nextItem_close hd]
      rfl
    | list hd hv hu =>
      obtain ⟨c, s, rfl, opens⟩ := hv.opens
      refine readItems_another h ?_ blank_nil hv hu (readItems_spelt h _ hu r)
      simp only [List.append_eq, List.cons_append, List.append_assoc, List.nil_append]
      exact nextItem_first hd opens _
  · rename_i notList
    cases j with
    | arr items => exact absurd (opens ▸ rfl) (notList (s ++ r))
    | _ => rfl

end

end Reader

/-- If a value is read up to the blanks at the end, its check decides what becomes of the text. -/
theorem readDocument_of_read {α β : Type} {reader : Reader α} {text : String} {a : α}
    {d : List Char} (read : reader.read text.toList = .ok (a, d)) (hd : Blank d)
    (check : α → Except String β) : readDocument reader check text = check a := by
  rw [readDocument, read]
  dsimp only
  rw [readEnd, skipSpace_blank hd]
  cases check a <;> rfl

/-- A whole text is read as its value is decoded and checked. -/
theorem readDocument_spelt {α β : Type} {reader : Reader α} {decode : Json → Option α}
    (h : reader.Decodes decode) (check : α → Except String β) {j : Json} {text : String}
    (ht : SpellsDocument j text.toList) :
    (readDocument reader check text).toOption = (decode j).bind fun a => (check a).toOption := by
  generalize given : text.toList = s at ht
  cases ht with
  | @ends b t d hb ht hd =>
    have rest : Ends d := by
      have blank := Ends.blank_append hd ends_nil
      rwa [List.append_nil] at blank
    rw [List.append_assoc] at given
    rcases h.outcome hb ht rest with ⟨f, read, value⟩ | ⟨a, read, value⟩
    · rw [readDocument, given, read, value]
      rfl
    · rw [← given] at read
      rw [readDocument_of_read read hd check, value, Option.bind_some]

theorem readDocument_eq_ok_iff {α β : Type} {reader : Reader α} {decode : Json → Option α}
    (h : reader.Decodes decode) {check : α → Except String β} {j : Json} {text : String}
    (ht : SpellsDocument j text.toList) {b : β} :
    readDocument reader check text = .ok b ↔ ∃ a, decode j = some a ∧ check a = .ok b := by
  have ok {γ : Type} {x : Except String γ} {c : γ} : x = .ok c ↔ x.toOption = some c := by
    cases x <;> simp [Except.toOption]
  simp only [ok, readDocument_spelt h check ht, Option.bind_eq_some_iff]

/-! ## The errors of a reader in other words -/

section
variable {ε ε' α : Type} {f : ε → ε'} {x : Except ε α}

theorem mapError_eq_ok_iff {a : α} : x.mapError f = .ok a ↔ x = .ok a := by
  cases x <;> simp [Except.mapError]

theorem mapError_eq_error_iff {e : ε'} : x.mapError f = .error e ↔ ∃ d, x = .error d ∧ f d = e := by
  cases x <;> simp [Except.mapError]

end

/-! ## Values of one type -/

theorem word?_eq_some_iff {j : Json} {n : UInt32} : word? j = some n ↔ j = .ofWord n := by
  have small := n.toNat_lt
  constructor
  · intro read
    cases j with
    | int k =>
      rw [word?] at read
      split at read
      · rename_i fits
        cases read
        have value : k.toNat < UInt32.size := by omega
        rw [ofWord, UInt32.toNat_ofNat_of_lt' value, Int.toNat_of_nonneg fits.1]
      · cases read
    | _ => cases read
  · intro same
    subst same
    have fits : (0 : Int) ≤ n.toNat ∧ (n.toNat : Int) < UInt32.size := by
      constructor
      · omega
      · exact Int.ofNat_lt.mpr small
    rw [ofWord, word?, if_pos fits, Int.toNat_natCast, UInt32.ofNat_toNat]

theorem flag?_eq_some_iff {j : Json} {value : Bool} : flag? j = some value ↔ j = .bool value := by
  cases j <;> simp [flag?]

theorem text?_eq_some_iff {j : Json} {value : String} : text? j = some value ↔ j = .str value := by
  cases j <;> simp [text?]

theorem mapM_eq_some_iff {α β : Type} {f : α → Option β} {xs : List α} {ys : List β} :
    xs.mapM f = some ys ↔ List.Forall₂ (fun y x => f x = some y) ys xs := by
  induction xs generalizing ys with
  | nil => cases ys <;> simp
  | cons x xs ih =>
    rw [List.mapM_cons]
    cases ys with
    | nil => simp [Option.bind_eq_some_iff]
    | cons y ys => simp [Option.bind_eq_some_iff, ih]

theorem list?_eq_some_iff {α : Type} {item? : Json → Option α} {j : Json} {values : List α} :
    list? item? j = some values ↔
      ∃ items, j = .arr items ∧ List.Forall₂ (fun a i => item? i = some a) values items := by
  cases j <;> simp [list?, mapM_eq_some_iff]

end OpenCLRegistry.Json
