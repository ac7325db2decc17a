/-!
# Finite maps keyed by name

A map holds its pairs in strictly ascending order of their names, by code point.
The order is part of the type, so each map has one representation: `NameMap.ext`
says that two maps which answer every look-up alike are equal. Everything else
is described by what `get?` answers afterwards.
-/
namespace OpenCLRegistry

universe u

/-- Names strictly ascend, so none occurs twice. -/
def Ascending {α : Type u} (entries : List (String × α)) : Prop :=
  entries.Pairwise fun a b => a.1 < b.1

structure NameMap (α : Type u) where
  entries : List (String × α)
  ascending : Ascending entries
deriving DecidableEq

namespace NameMap

variable {α : Type u}

/-- The value at a name in a list of pairs: that of the first pair with the name. -/
def lookup (name : String) : List (String × α) → Option α
  | [] => none
  | (key, value) :: rest => if name = key then some value else lookup name rest

/-- Puts a pair in its place and replaces the value of a name that is there. -/
def place (name : String) (value : α) : List (String × α) → List (String × α)
  | [] => [(name, value)]
  | (key, old) :: rest =>
    if name < key then (name, value) :: (key, old) :: rest
    else if name = key then (name, value) :: rest
    else (key, old) :: place name value rest

theorem mem_place {name : String} {value : α} {entries : List (String × α)} {e : String × α}
    (h : e ∈ place name value entries) : e = (name, value) ∨ e ∈ entries := by
  induction entries with
  | nil => simpa [place] using h
  | cons head rest ih =>
    rcases head with ⟨key, old⟩
    unfold place at h
    split at h
    · simpa using h
    · split at h
      · rcases List.mem_cons.1 h with h | h
        · exact .inl h
        · exact .inr (List.mem_cons_of_mem _ h)
      · rcases List.mem_cons.1 h with h | h
        · exact .inr (h ▸ List.mem_cons_self)
        · exact (ih h).imp id (List.mem_cons_of_mem _)

theorem ascending_place (name : String) (value : α) {entries : List (String × α)}
    (h : Ascending entries) : Ascending (place name value entries) := by
  induction entries with
  | nil => exact List.pairwise_singleton _ _
  | cons head rest ih =>
    rcases head with ⟨key, old⟩
    obtain ⟨below, tail⟩ := List.pairwise_cons.1 h
    unfold place
    split
    · rename_i less
      refine List.pairwise_cons.2 ⟨fun e he => ?_, h⟩
      rcases List.mem_cons.1 he with he | he
      · exact he ▸ less
      · exact String.lt_trans less (below e he)
    · rename_i notLess
      split
      · rename_i same
        exact List.pairwise_cons.2 ⟨fun e he => same ▸ below e he, tail⟩
      · rename_i different
        refine List.pairwise_cons.2 ⟨fun e he => ?_, ih tail⟩
        rcases mem_place he with he | he
        · subst he
          have key_le := String.not_lt.1 notLess
          exact String.not_le.1 fun le => different (String.le_antisymm le key_le)
        · exact below e he

theorem ascending_map (f : String → α → α) {entries : List (String × α)}
    (h : Ascending entries) : Ascending (entries.map fun e => (e.1, f e.1 e.2)) :=
  List.pairwise_map.2 h

theorem lookup_place (name other : String) (value : α) (entries : List (String × α)) :
    lookup other (place name value entries) =
      if other = name then some value else lookup other entries := by
  induction entries with
  | nil => simp [place, lookup]
  | cons head rest ih =>
    rcases head with ⟨key, old⟩
    unfold place
    split
    · simp [lookup]
    · split
      · rename_i same
        subst same
        by_cases h : other = name <;> simp [lookup, h]
      · rename_i different
        by_cases h : other = key
        · subst h
          simp [lookup, Ne.symm different]
        · simp [lookup, h, ih]

theorem lookup_map (f : String → α → α) (name : String) (entries : List (String × α)) :
    lookup name (entries.map fun e => (e.1, f e.1 e.2)) = (lookup name entries).map (f name) := by
  induction entries with
  | nil => rfl
  | cons head rest ih =>
    by_cases h : name = head.1
    · simp [lookup, ← h]
    · simp [lookup, h, ih]

theorem lookup_eq_none {name : String} {entries : List (String × α)}
    (h : ∀ e ∈ entries, name ≠ e.1) : lookup name entries = none := by
  induction entries with
  | nil => rfl
  | cons head rest ih =>
    simp only [lookup, h head List.mem_cons_self, if_false]
    exact ih fun e he => h e (List.mem_cons_of_mem _ he)

theorem lookup_eq_some_iff {name : String} {value : α} {entries : List (String × α)}
    (h : Ascending entries) : lookup name entries = some value ↔ (name, value) ∈ entries := by
  induction entries with
  | nil => simp [lookup]
  | cons head rest ih =>
    rcases head with ⟨key, old⟩
    obtain ⟨below, tail⟩ := List.pairwise_cons.1 h
    by_cases same : name = key
    · subst same
      have apart : (name, value) ∉ rest := fun he => String.lt_irrefl name (below (name, value) he)
      simp [lookup, apart, eq_comm]
    · simp [lookup, same, ih tail]

/-- Lists in ascending order that answer alike are the same list. -/
theorem eq_of_lookup_eq {entries others : List (String × α)} (h : Ascending entries)
    (h' : Ascending others) (same : ∀ name, lookup name entries = lookup name others) :
    entries = others := by
  induction entries generalizing others with
  | nil =>
    cases others with
    | nil => rfl
    | cons head rest => simpa [lookup] using same head.1
  | cons head rest ih =>
    cases others with
    | nil => simpa [lookup] using same head.1
    | cons head' rest' =>
      rcases head with ⟨key, value⟩
      rcases head' with ⟨key', value'⟩
      obtain ⟨below, tail⟩ := List.pairwise_cons.1 h
      obtain ⟨below', tail'⟩ := List.pairwise_cons.1 h'
      have mem : (key, value) ∈ (key', value') :: rest' :=
        (lookup_eq_some_iff h').1 (same key ▸ by simp [lookup])
      have mem' : (key', value') ∈ (key, value) :: rest :=
        (lookup_eq_some_iff h).1 (same key' ▸ by simp [lookup])
      have heads : (key, value) = (key', value') := by
        rcases List.mem_cons.1 mem with e | m
        · exact e
        · rcases List.mem_cons.1 mem' with e | m'
          · exact e.symm
          · exact absurd (below _ m') (String.lt_asymm (below' _ m))
      cases heads
      refine congrArg _ (ih tail tail' fun name => ?_)
      by_cases eq : name = key
      · subst eq
        rw [lookup_eq_none fun e he eq => String.lt_irrefl _ (eq ▸ below e he),
          lookup_eq_none fun e he eq => String.lt_irrefl _ (eq ▸ below' e he)]
      · simpa [lookup, eq] using same name

def empty : NameMap α := ⟨[], List.Pairwise.nil⟩

instance : Inhabited (NameMap α) := ⟨empty⟩

def get? (m : NameMap α) (name : String) : Option α := lookup name m.entries

def contains (m : NameMap α) (name : String) : Bool := (m.get? name).isSome

def size (m : NameMap α) : Nat := m.entries.length

/-- The names of the map, ascending. -/
def names (m : NameMap α) : List String := m.entries.map Prod.fst

/-- Sets the value at a name, which may be new. -/
def insert (m : NameMap α) (name : String) (value : α) : NameMap α :=
  ⟨place name value m.entries, ascending_place name value m.ascending⟩

/-- Inserts the pairs from the left, so that the last pair of a name counts. -/
def insertAll (m : NameMap α) (pairs : List (String × α)) : NameMap α :=
  pairs.foldl (fun m e => m.insert e.1 e.2) m

def ofPairs (pairs : List (String × α)) : NameMap α := empty.insertAll pairs

/-- Changes values and keeps the names. -/
def mapValues (m : NameMap α) (f : String → α → α) : NameMap α :=
  ⟨m.entries.map fun e => (e.1, f e.1 e.2), ascending_map f m.ascending⟩

@[ext] theorem ext {m n : NameMap α} (h : ∀ name, m.get? name = n.get? name) : m = n := by
  have entries := eq_of_lookup_eq m.ascending n.ascending h
  cases m
  cases n
  cases entries
  rfl

@[simp] theorem get?_empty (name : String) : (empty : NameMap α).get? name = none := rfl

theorem get?_insert (m : NameMap α) (name other : String) (value : α) :
    (m.insert name value).get? other = if other = name then some value else m.get? other :=
  lookup_place name other value m.entries

@[simp] theorem get?_mapValues (m : NameMap α) (f : String → α → α) (name : String) :
    (m.mapValues f).get? name = (m.get? name).map (f name) :=
  lookup_map f name m.entries

theorem get?_eq_some_iff {m : NameMap α} {name : String} {value : α} :
    m.get? name = some value ↔ (name, value) ∈ m.entries :=
  lookup_eq_some_iff m.ascending

theorem mem_names_iff {m : NameMap α} {name : String} :
    name ∈ m.names ↔ m.contains name = true := by
  simp [names, contains, Option.isSome_iff_exists, get?_eq_some_iff]

end NameMap

end OpenCLRegistry
