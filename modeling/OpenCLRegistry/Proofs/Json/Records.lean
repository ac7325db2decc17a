import OpenCLRegistry.Proofs.Json.Decoding

/-!
# Records as functions of the value

A record format decodes values if the readers of its fields do. An object is
worked through member by member: keys that are not fields are passed over with
whatever is written under them, a field that comes again is refused, and at the
end no required field may be missing. A list is worked through field by field.
-/
namespace OpenCLRegistry.Json.RecordFormat

open Reader

variable {σ : Type} (format : RecordFormat σ)

/-- What each value of a field changes in the record. -/
abbrev Changes (σ : Type) := String → Json → Option (σ → σ)

/-- What the members of an object make of a record, in the order in which they stand. -/
def ofMembers (change : Changes σ) (seen : List String) (record : σ) :
    List (String × Json) → Option σ
  | [] =>
    if format.fields.any fun field => field.required && !seen.contains field.key then none
    else some record
  | (key, j) :: rest =>
    if format.fields.any (·.key == key) then
      if seen.contains key then none
      else (change key j).bind fun f => ofMembers change (key :: seen) (f record) rest
    else ofMembers change seen record rest

/-- What the items of a list make of a record, one for each field. -/
def ofItems (change : Changes σ) : List (Field σ) → σ → List Json → Option σ
  | [], record, [] => some record
  | [], _, _ :: _ => none
  | field :: fields, record, [] =>
    if (field :: fields).any (·.required) then none else some record
  | field :: fields, record, j :: rest =>
    (change field.key j).bind fun f => ofItems change fields (f record) rest

def decode (change : Changes σ) : Json → Option σ
  | .arr items => ofItems change format.fields format.start items
  | .obj members => format.ofMembers change [] format.start members
  | _ => none

/-- What is written for a member, as far as the format reads it: under a key that is no field
there may stand any value. -/
def Takes (written : String × List Char) (member : String × Json) : Prop :=
  written.1 = member.1 ∧
    (format.fields.any (·.key == written.1) → Spells (.value member.2) written.2)

theorem takes_of_spellsMember {written : String × List Char} {member : String × Json}
    (h : SpellsMember written member) : format.Takes written member :=
  ⟨h.1, fun _ => h.2⟩

variable {format} {change : Changes σ}

/-! ## Objects -/

theorem finish_eq (seen : List String) (record : σ) (r : List Char) :
    (format.finish seen record r).toOption =
      (format.ofMembers change seen record []).map (·, r) := by
  rw [finish, ofMembers, ← List.isSome_find?]
  cases format.fields.find? fun field => field.required && !seen.contains field.key <;> rfl

section
variable (fields : ∀ field ∈ format.fields, field.change.Decodes (change field.key))
include fields

/-- One member, once it is known that there is one and that the others are read. -/
theorem readMembers_another {first : Bool} {seen : List String} {record : σ} {key : String}
    {j : Json} {rest : List (String × Json)} {s q e d t u r : List Char}
    (next : nextKey first s = .ok (.another (q ++ (e ++ ':' :: (d ++ (t ++ (u ++ r)))))))
    (hq : SpellsString key.toList q) (he : Blank e) (hd : Blank d) (ht : WellFormed .value t)
    (ends : Ends (u ++ r)) (spelt : format.fields.any (·.key == key) → Spells (.value j) t)
    (later : ∀ seen record, (format.readMembers seen false record (u ++ r)).toOption =
      (format.ofMembers change seen record rest).map (·, r)) :
    (format.readMembers seen first record s).toOption =
      (format.ofMembers change seen record ((key, j) :: rest)).map (·, r) := by
  rw [readMembers, next]
  dsimp only
  rw [readString_spelt hq]
  dsimp only
  rw [String.ofList_toList, ofMembers, ← List.isSome_find?]
  rw [← List.isSome_find?] at spelt
  cases found : format.fields.find? (·.key == key) with
  | none =>
    dsimp only
    rw [readColon_token he]
    dsimp only
    rw [skipValue_text ht hd ends]
    exact later seen record
  | some field =>
    dsimp only
    rw [Option.isSome_some, if_pos rfl]
    by_cases again : seen.contains key = true
    · rw [if_pos again, if_pos again]
      rfl
    · have decodes := fields field (List.mem_of_find?_eq_some found)
      have same := List.find?_some found
      rw [beq_iff_eq.mp same] at decodes
      rw [found] at spelt
      rw [if_neg again, if_neg again, readColon_token he]
      dsimp only
      rcases decodes.outcome hd (spelt rfl) ends with ⟨fault, read, value⟩ | ⟨f, read, value⟩
      · rw [read, value]
        rfl
      · rw [read, value]
        exact later (key :: seen) (f record)

theorem readMembers_text {written : List (String × List Char)} {rest : List (String × Json)}
    (taken : List.Forall₂ format.Takes written rest) {u : List Char} (hu : MembersText written u)
    (r : List Char) (seen : List String) (record : σ) :
    (format.readMembers seen false record (u ++ r)).toOption =
      (format.ofMembers change seen record rest).map (·, r) := by
  -- Each member adds to the keys that were seen and changes the record.
  induction taken generalizing u seen record with
  | nil =>
    cases hu with
    | close hb =>
      rw [List.append_assoc, List.singleton_append, readMembers, nextKey_close hb]
      exact finish_eq seen record r
  | @cons _ member _ rest first _ ih =>
    obtain ⟨key, j⟩ := member
    obtain ⟨rfl, spelt⟩ := first
    cases hu with
    | member hb hc hk hd ht hv =>
      cases hk with
      | colon hq he =>
        refine readMembers_another fields ?_ hq he hd ht (hv.ends r) spelt (ih hv)
        simp only [List.cons_append, List.append_assoc, List.nil_append]
        exact nextKey_later hb hc _

omit fields in
theorem read_object {b : List Char} (hb : Blank b) (s : List Char) :
    format.read (b ++ '\x7b' :: s) = format.readMembers [] true format.start s := by
  rw [read, skipSpace_token hb rfl]
  rfl

/-- An object whose fields are spelt is read as the object that they are the fields of. -/
theorem read_objectText {written : List (String × List Char)} {members : List (String × Json)}
    (taken : List.Forall₂ format.Takes written members) {b t : List Char} (hb : Blank b)
    (ht : ObjectText written t) (r : List Char) :
    (format.read (b ++ (t ++ r))).toOption =
      (format.decode change (.obj members)).map (·, r) := by
  cases ht with
  | empty hd =>
    cases taken
    simp only [List.cons_append, List.append_assoc, List.nil_append]
    rw [read_object hb, readMembers, nextKey_close hd, decode]
    exact finish_eq [] format.start r
  | members hc hk hd hv hu =>
    cases taken with
    | @cons _ member _ rest first others =>
      obtain ⟨key, j⟩ := member
      obtain ⟨rfl, spelt⟩ := first
      cases hk with
      | colon hq he =>
        simp only [List.cons_append, List.append_assoc, List.nil_append]
        rw [read_object hb]
        exact readMembers_another fields (nextKey_first hc _) hq he hd hv (hu.ends r) spelt
          (readMembers_text fields others hu r)

end

/-! ## Lists -/

theorem readFields_closed (count : Nat) (field : Field σ) (fields : List (Field σ)) (record : σ)
    {s r : List Char} (next : nextItem (count == 0) s = .ok (.closed r)) :
    (format.readFields count (field :: fields) record s).toOption =
      (ofItems change (field :: fields) record []).map (·, r) := by
  rw [readFields, next, ofItems]
  dsimp only
  split <;> rfl

theorem readFields_another {count : Nat} {field : Field σ} {fields : List (Field σ)} {record : σ}
    {j : Json} {rest : List Json} {s b t u r : List Char}
    (decodes : field.change.Decodes (change field.key))
    (next : nextItem (count == 0) s = .ok (.another (b ++ (t ++ (u ++ r))))) (hb : Blank b)
    (ht : Spells (.value j) t) (hu : Spells (.items rest) u)
    (later : ∀ record, (format.readFields (count + 1) fields record (u ++ r)).toOption =
      (ofItems change fields record rest).map (·, r)) :
    (format.readFields count (field :: fields) record s).toOption =
      (ofItems change (field :: fields) record (j :: rest)).map (·, r) := by
  rw [readFields, next, ofItems]
  dsimp only
  rcases decodes.outcome hb ht (hu.ends_items r) with ⟨fault, read, value⟩ | ⟨f, read, value⟩
  · rw [read, value]
    rfl
  · rw [read, value]
    exact later (f record)

/-- Items for which there are no fields are refused. -/
theorem readFields_excess (count : Nat) (record : σ) {b : List Char} (hb : Blank b) {c : Char}
    (blank : isSpace c = false) (close : c ≠ ']') (s : List Char) :
    (format.readFields count [] record (b ++ c :: s)).toOption = none := by
  have refused := closeList_refuses hb blank close s
  rw [readFields]
  cases closed : closeList (b ++ c :: s) with
  | error f => rfl
  | ok r =>
    rw [closed] at refused
    cases refused

theorem readFields_spelt {fields : List (Field σ)}
    (decodes : ∀ field ∈ fields, field.change.Decodes (change field.key)) (count : Nat)
    (record : σ) (items : List Json) {u : List Char} (hu : Spells (.items items) u)
    (r : List Char) :
    (format.readFields (count + 1) fields record (u ++ r)).toOption =
      (ofItems change fields record items).map (·, r) := by
  induction fields generalizing count record items u with
  | nil =>
    cases hu with
    | noItem hb =>
      rw [List.append_assoc, List.singleton_append, readFields, closeList_close hb]
      rfl
    | item hb =>
      simp only [List.cons_append, List.append_assoc]
      exact readFields_excess _ record hb rfl (by decide) _
  | cons field fields ih =>
    cases hu with
    | noItem hb =>
      rw [List.append_assoc, List.singleton_append]
      exact readFields_closed _ field fields record (nextItem_close hb _ r)
    | item hb hd ht hv =>
      obtain ⟨c, s, rfl, opens⟩ := ht.opens
      have first := decodes field List.mem_cons_self
      have others := fun field mem => decodes field (List.mem_cons_of_mem _ mem)
      refine readFields_another first ?_ blank_nil ht hv fun record => ih others _ record _ hv
      simp only [List.cons_append, List.append_assoc, List.nil_append]
      exact nextItem_later hb hd opens _

theorem readFields_first {fields : List (Field σ)}
    (decodes : ∀ field ∈ fields, field.change.Decodes (change field.key)) (record : σ)
    {items : List Json} {s : List Char} (ht : Spells (.value (.arr items)) ('[' :: s))
    (r : List Char) :
    (format.readFields 0 fields record (s ++ r)).toOption =
      (ofItems change fields record items).map (·, r) := by
  cases ht with
  | emptyList hd =>
    rw [List.append_eq, List.append_assoc, List.singleton_append]
    cases fields with
    | nil => rw [readFields, closeList_close hd]; rfl
    | cons field fields => exact readFields_closed 0 field fields record (nextItem_close hd _ r)
  | list hd hv hu =>
    obtain ⟨c, s, rfl, opens⟩ := hv.opens
    simp only [List.append_eq, List.append_assoc]
    cases fields with
    | nil => exact readFields_excess 0 record hd opens.token.1 opens.token.2.1 _
    | cons field fields =>
      have first := decodes field List.mem_cons_self
      have others := fun field mem => decodes field (List.mem_cons_of_mem _ mem)
      refine readFields_another first ?_ blank_nil hv hu fun record =>
        readFields_spelt others 0 record _ hu r
      exact nextItem_first hd opens _

/-- A format reads what its fields make of a value. -/
theorem decodes_reader (fields : ∀ field ∈ format.fields, field.change.Decodes (change field.key)) :
    format.reader.Decodes (format.decode change) := by
  intro j b t r hb ht ends
  obtain ⟨c, s, rfl, opens⟩ := ht.opens
  change (format.read _).toOption = _
  rw [read, List.cons_append, skipSpace_token hb opens.token.1]
  split
  · rename_i eq
    cases eq
    obtain ⟨items, rfl⟩ : ∃ items, j = .arr items := opens.shape
    exact readFields_first fields format.start ht r
  · rename_i eq
    cases eq
    obtain ⟨members, rfl⟩ : ∃ members, j = .obj members := opens.shape
    obtain ⟨written, object, same⟩ := ht.objectText
    have taken := same.imp fun _ _ => format.takes_of_spellsMember
    exact read_objectText fields taken blank_nil object r
  · rename_i notList notObject
    cases j with
    | arr items => exact absurd (opens ▸ rfl) (notList (s ++ r))
    | obj members => exact absurd (opens ▸ rfl) (notObject (s ++ r))
    | _ => rfl

end OpenCLRegistry.Json.RecordFormat
