import OpenCLRegistry.Text.Quoted
import Mathlib.Data.List.Basic

/-!
# What quoted text determines

A quoted character shows as itself, as a backslash with one letter, or as a backslash with
its code point. None of these texts begins another one, so they can be told apart where
they stand in a row, and quoted text determines what was quoted. Which characters count as
unprintable makes no difference to this.
-/
namespace OpenCLRegistry.Text

/-- The escapes by a single letter, and what they stand for. -/
def shortEscapes : List (Char × Char) :=
  [('"', '"'), ('\\', '\\'), ('n', '\n'), ('r', '\r'), ('t', '\t'), ('0', '\x00')]

/-- The texts by which a character may be shown. -/
inductive Shows : Char → List Char → Prop
  | plain {c : Char} : (∀ escape ∈ shortEscapes, c ≠ escape.2) → Shows c [c]
  | short {e c : Char} : (e, c) ∈ shortEscapes → Shows c ['\\', e]
  | codePoint (c : Char) : Shows c ('\\' :: 'u' :: '{' :: (Nat.toDigits 16 c.toNat ++ ['}']))

theorem shows_quoteChar (c : Char) : Shows c (quoteChar c) := by
  unfold quoteChar
  split
  any_goals exact .short (by decide)
  rename_i quote backslash newline carriageReturn tab zero
  split
  · exact .codePoint c
  · refine .plain ?_
    simp only [shortEscapes, List.forall_mem_cons]
    exact ⟨quote, backslash, newline, carriageReturn, tab, zero, nofun⟩

/-! ## Hexadecimal digits -/

theorem toDigits_hex (n : Nat) :
    Nat.toDigits 16 n =
      (if n < 16 then [] else Nat.toDigits 16 (n / 16)) ++ [(n % 16).digitChar] := by
  by_cases small : n < 16
  · rw [if_pos small, Nat.toDigits_of_lt_base small, Nat.mod_eq_of_lt small, List.nil_append]
  · rw [if_neg small, Nat.toDigits_of_base_le (by decide) (Nat.not_lt.mp small)]

theorem exists_digitChar_of_mem {c : Char} {n : Nat} (mem : c ∈ Nat.toDigits 16 n) :
    ∃ k < 16, c = k.digitChar := by
  induction n using Nat.strongRecOn with
  | ind n ih =>
    rw [toDigits_hex, List.mem_append, List.mem_singleton] at mem
    rcases mem with front | last
    · by_cases small : n < 16
      · rw [if_pos small] at front
        cases front
      · rw [if_neg small] at front
        exact ih (n / 16) (by omega) front
    · exact ⟨n % 16, Nat.mod_lt n (by decide), last⟩

theorem digitChar_injective {k l : Nat} (hk : k < 16) (hl : l < 16)
    (same : k.digitChar = l.digitChar) : k = l := by
  have distinct : ∀ k < 16, ∀ l < 16, k.digitChar = l.digitChar → k = l := by decide
  exact distinct k hk l hl same

/-- A number is determined by its digits, the last one and those in front. -/
theorem toDigits_hex_injective {m n : Nat} (same : Nat.toDigits 16 m = Nat.toDigits 16 n) :
    m = n := by
  induction m using Nat.strongRecOn generalizing n with
  | ind m ih =>
    rw [toDigits_hex m, toDigits_hex n] at same
    obtain ⟨front, last⟩ := List.append_inj' same rfl
    have unit : m % 16 = n % 16 :=
      digitChar_injective (Nat.mod_lt m (by decide)) (Nat.mod_lt n (by decide))
        (List.singleton_inj.mp last)
    by_cases small : m < 16 <;> by_cases small' : n < 16
    · omega
    · rw [if_pos small, if_neg small'] at front
      exact absurd front.symm Nat.toDigits_ne_nil
    · rw [if_neg small, if_pos small'] at front
      exact absurd front Nat.toDigits_ne_nil
    · rw [if_neg small, if_neg small'] at front
      have high := ih (m / 16) (by omega) front
      omega

/-- The digits end at the brace. -/
theorem toDigits_hex_brace {m n : Nat} {s t : List Char}
    (same : Nat.toDigits 16 m ++ '}' :: s = Nat.toDigits 16 n ++ '}' :: t) :
    Nat.toDigits 16 m = Nat.toDigits 16 n ∧ s = t := by
  have cut (n : Nat) (r : List Char) :
      (Nat.toDigits 16 n ++ '}' :: r).takeWhile (· ≠ '}') = Nat.toDigits 16 n := by
    have digit : ∀ c ∈ Nat.toDigits 16 n, decide (c ≠ '}') = true := by
      intro c mem
      obtain ⟨k, small, rfl⟩ := exists_digitChar_of_mem mem
      have apart : ∀ k < 16, k.digitChar ≠ '}' := by decide
      exact decide_eq_true (apart k small)
    rw [List.takeWhile_append_of_pos digit]
    simp
  have digits : Nat.toDigits 16 m = Nat.toDigits 16 n := by rw [← cut m s, same, cut n t]
  rw [digits] at same
  exact ⟨digits, (List.cons.inj (List.append_cancel_left same)).2⟩

/-! ## Characters in a row -/

namespace Shows

variable {c d : Char} {x y s t : List Char}

/-- What does not show as itself begins with a backslash, which itself does not. -/
theorem plain_or_backslash (h : Shows c x) : (x = [c] ∧ c ≠ '\\') ∨ ∃ r, x = '\\' :: r := by
  cases h with
  | plain apart => exact .inl ⟨rfl, apart ('\\', '\\') (by decide)⟩
  | short mem => exact .inr ⟨_, rfl⟩
  | codePoint => exact .inr ⟨_, rfl⟩

theorem ne_nil (h : Shows c x) : x ≠ [] := by
  cases h <;> simp

/-- The letter after a backslash tells the escapes apart. -/
theorem unique_of_backslash (h : Shows c ('\\' :: x)) (h' : Shows d ('\\' :: y))
    (same : x ++ s = y ++ t) : c = d ∧ s = t := by
  have noBackslash {c : Char} (apart : ∀ escape ∈ shortEscapes, c ≠ escape.2) : c ≠ '\\' :=
    apart ('\\', '\\') (by decide)
  have noCodePoint {e c : Char} (mem : (e, c) ∈ shortEscapes) : e ≠ 'u' := by
    have letters : ∀ escape ∈ shortEscapes, escape.1 ≠ 'u' := by decide
    exact letters (e, c) mem
  cases h with
  | plain apart => exact absurd rfl (noBackslash apart)
  | short mem =>
    cases h' with
    | plain apart => exact absurd rfl (noBackslash apart)
    | short mem' =>
      obtain ⟨rfl, rest⟩ := List.cons.inj same
      have functional : ∀ p ∈ shortEscapes, ∀ q ∈ shortEscapes, p.1 = q.1 → p.2 = q.2 := by decide
      exact ⟨functional _ mem _ mem' rfl, rest⟩
    | codePoint => exact absurd (List.cons.inj same).1 (noCodePoint mem)
  | codePoint =>
    cases h' with
    | plain apart => exact absurd rfl (noBackslash apart)
    | short mem => exact absurd (List.cons.inj same).1.symm (noCodePoint mem)
    | codePoint =>
      simp only [List.cons_append, List.append_assoc, List.nil_append, List.cons.injEq,
        true_and] at same
      obtain ⟨digits, rest⟩ := toDigits_hex_brace same
      exact ⟨Char.toNat_inj.mp (toDigits_hex_injective digits), rest⟩

/-- No character shows as the beginning of what another one shows as. -/
theorem unique (h : Shows c x) (h' : Shows d y) (same : x ++ s = y ++ t) : c = d ∧ s = t := by
  rcases h.plain_or_backslash with ⟨rfl, apart⟩ | ⟨r, rfl⟩ <;>
    rcases h'.plain_or_backslash with ⟨rfl, apart'⟩ | ⟨r', rfl⟩
  · exact List.cons.inj same
  · exact absurd (List.cons.inj same).1 apart
  · exact absurd (List.cons.inj same).1.symm apart'
  · exact h.unique_of_backslash h' (List.cons.inj same).2

end Shows

theorem flatMap_quoteChar_injective : Function.Injective (List.flatMap quoteChar) := by
  intro s t same
  induction s generalizing t with
  | nil =>
    cases t with
    | nil => rfl
    | cons d t => exact absurd (List.append_eq_nil_iff.mp same.symm).1 (shows_quoteChar d).ne_nil
  | cons c s ih =>
    cases t with
    | nil => exact absurd (List.append_eq_nil_iff.mp same).1 (shows_quoteChar c).ne_nil
    | cons d t =>
      rw [List.flatMap_cons, List.flatMap_cons] at same
      obtain ⟨rfl, rest⟩ := (shows_quoteChar c).unique (shows_quoteChar d) same
      rw [ih rest]

theorem quoted_injective : Function.Injective quoted := by
  intro s t same
  have chars := String.ofList_injective same
  have inner := List.append_cancel_right (List.cons.inj chars).2
  exact String.toList_inj.mp (flatMap_quoteChar_injective inner)

/-! ## Characters that are never shown -/

/-- The characters that would break a line or end a text. -/
def breaking : List Char := ['\n', '\r', '\t', '\x00']

theorem Shows.not_breaking {c shown : Char} {x : List Char} (h : Shows c x) (mem : shown ∈ x) :
    shown ∉ breaking := by
  cases h with
  | plain apart =>
    obtain rfl := List.mem_singleton.mp mem
    intro raw
    have escaped : ∀ c ∈ breaking, ∃ escape ∈ shortEscapes, c = escape.2 := by
      simp [breaking, shortEscapes]
    obtain ⟨escape, listed, same⟩ := escaped shown raw
    exact apart escape listed same
  | short listed =>
    have letters : ∀ escape ∈ shortEscapes, ∀ c ∈ ['\\', escape.1], c ∉ breaking := by
      simp [breaking, shortEscapes]
    exact letters _ listed shown mem
  | codePoint =>
    have marks : ∀ c ∈ ['\\', 'u', '{', '}'], c ∉ breaking := by simp [breaking]
    have digits : ∀ k < 16, k.digitChar ∉ breaking := by decide
    simp only [List.mem_cons, List.mem_append, List.not_mem_nil, or_false] at mem
    rcases mem with rfl | rfl | rfl | digit | rfl
    case inr.inr.inr.inl =>
      obtain ⟨k, small, rfl⟩ := exists_digitChar_of_mem digit
      exact digits k small
    all_goals exact marks _ (by decide)

theorem not_breaking_of_mem_quoted {shown : Char} {s : String} (mem : shown ∈ (quoted s).toList) :
    shown ∉ breaking := by
  rw [quoted, String.toList_ofList, List.cons_append, List.mem_cons, List.mem_append,
    List.mem_flatMap, List.mem_singleton] at mem
  rcases mem with rfl | ⟨c, -, inside⟩ | rfl
  · decide
  · exact (shows_quoteChar c).not_breaking inside
  · decide

end OpenCLRegistry.Text
