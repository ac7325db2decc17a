import OpenCLRegistry.NameMap

/-!
# Look-ups after many insertions

Inserting pairs from the left makes the last pair of a name count. Where no name
occurs twice, every pair is found again. So a map that is inserted whole into
another one overrides it name by name.
-/
namespace OpenCLRegistry.NameMap

universe u

variable {α : Type u}

theorem lookup_append (name : String) (front back : List (String × α)) :
    lookup name (front ++ back) = (lookup name front).or (lookup name back) := by
  induction front with
  | nil => rfl
  | cons head rest ih =>
    rcases head with ⟨key, value⟩
    by_cases same : name = key
    · simp [lookup, same]
    · simp [lookup, same, ih]

/-- Where all names have the same value. -/
theorem lookup_map_const (name : String) (names : List String) (value : α) :
    lookup name (names.map fun other => (other, value)) =
      if name ∈ names then some value else none := by
  induction names with
  | nil => rfl
  | cons other rest ih => by_cases same : name = other <;> simp [lookup, same, ih]

theorem lookup_of_mem {name : String} {value : α} {pairs : List (String × α)}
    (distinct : (pairs.map Prod.fst).Nodup) (mem : (name, value) ∈ pairs) :
    lookup name pairs = some value := by
  induction pairs with
  | nil => cases mem
  | cons head rest ih =>
    rcases head with ⟨key, old⟩
    obtain ⟨fresh, distinct⟩ := List.nodup_cons.mp distinct
    rcases List.mem_cons.mp mem with here | there
    · cases here
      simp [lookup]
    · have other : name ≠ key := by
        intro same
        subst same
        exact fresh (List.mem_map.mpr ⟨(name, value), there, rfl⟩)
      simp only [lookup, other, if_false]
      exact ih distinct there

/-- Among pairs in ascending order a name has one pair at most. -/
theorem filter_eq_lookup {entries : List (String × α)} (h : Ascending entries) (name : String) :
    (entries.filter fun e => e.1 = name) = ((lookup name entries).map (name, ·)).toList := by
  induction entries with
  | nil => rfl
  | cons head rest ih =>
    rcases head with ⟨key, value⟩
    obtain ⟨below, tail⟩ := List.pairwise_cons.mp h
    by_cases same : name = key
    · subst same
      have absent : lookup name rest = none :=
        lookup_eq_none fun e mem eq => String.lt_irrefl _ (eq ▸ below e mem)
      rw [List.filter_cons_of_pos (by simp), ih tail, absent]
      simp [lookup]
    · rw [List.filter_cons_of_neg (by simpa using Ne.symm same), ih tail]
      simp [lookup, same]

/-- What was inserted last under a name is found, and else what was there before. -/
theorem get?_insertAll (m : NameMap α) (pairs : List (String × α)) (name : String) :
    (m.insertAll pairs).get? name = (lookup name pairs.reverse).or (m.get? name) := by
  induction pairs generalizing m with
  | nil => rfl
  | cons head rest ih =>
    rcases head with ⟨key, value⟩
    change ((m.insert key value).insertAll rest).get? name = _
    rw [ih, get?_insert, List.reverse_cons, lookup_append, Option.or_assoc]
    by_cases same : name = key <;> simp [lookup, same]

theorem lookup_eq_head?_filter (name : String) (pairs : List (String × α)) :
    lookup name pairs = (pairs.filter fun e => e.1 = name).head?.map Prod.snd := by
  induction pairs with
  | nil => rfl
  | cons head rest ih =>
    rcases head with ⟨key, value⟩
    by_cases same : name = key
    · simp [lookup, same]
    · simp [lookup, same, Ne.symm same, ih]

theorem insertAll_append (m : NameMap α) (front back : List (String × α)) :
    m.insertAll (front ++ back) = (m.insertAll front).insertAll back :=
  List.foldl_append

/-- A map of pairs has under a name what the last pair of the name says. -/
theorem get?_ofPairs (pairs : List (String × α)) (name : String) :
    (ofPairs pairs).get? name = (pairs.filter fun e => e.1 = name).getLast?.map Prod.snd := by
  rw [ofPairs, get?_insertAll, get?_empty, Option.or_none, lookup_eq_head?_filter,
    List.filter_reverse, List.head?_reverse]

theorem mem_names_ofPairs {pairs : List (String × α)} {name : String} :
    name ∈ (ofPairs pairs).names ↔ name ∈ pairs.map Prod.fst := by
  simp [mem_names_iff, contains, get?_ofPairs]

theorem get?_ofPairs_of_mem {name : String} {value : α} {pairs : List (String × α)}
    (distinct : (pairs.map Prod.fst).Nodup) (mem : (name, value) ∈ pairs) :
    (ofPairs pairs).get? name = some value := by
  have distinct' : (pairs.reverse.map Prod.fst).Nodup := by
    rw [List.map_reverse]
    exact (List.reverse_perm _).nodup_iff.mpr distinct
  rw [ofPairs, get?_insertAll, lookup_of_mem distinct' (List.mem_reverse.mpr mem)]
  rfl

theorem nodup_of_ascending {entries : List (String × α)} (h : Ascending entries) :
    (entries.map Prod.fst).Nodup := by
  rw [List.Nodup, List.pairwise_map]
  refine h.imp fun {a b} less same => ?_
  rw [same] at less
  exact String.lt_irrefl _ less

/-- Where no name occurs twice, the order of the pairs does not matter. -/
theorem lookup_reverse (name : String) {entries : List (String × α)} (h : Ascending entries) :
    lookup name entries.reverse = lookup name entries := by
  have distinct : (entries.reverse.map Prod.fst).Nodup := by
    rw [List.map_reverse]
    exact (List.reverse_perm _).nodup_iff.mpr (nodup_of_ascending h)
  cases found : lookup name entries with
  | some value =>
    have mem := (lookup_eq_some_iff h).mp found
    exact lookup_of_mem distinct (List.mem_reverse.mpr mem)
  | none =>
    refine lookup_eq_none fun e mem same => ?_
    rw [same, lookup_of_mem (nodup_of_ascending h) (List.mem_reverse.mp mem)] at found
    cases found

/-- The map with the values of another one, where that has any. -/
def overriddenBy (m n : NameMap α) : NameMap α := m.insertAll n.entries

@[simp] theorem get?_overriddenBy (m n : NameMap α) (name : String) :
    (m.overriddenBy n).get? name = (n.get? name).or (m.get? name) := by
  rw [overriddenBy, get?_insertAll, lookup_reverse name n.ascending]
  rfl

@[simp] theorem overriddenBy_empty (m : NameMap α) : m.overriddenBy empty = m := rfl

theorem overriddenBy_insertAll (m n : NameMap α) (pairs : List (String × α)) :
    m.overriddenBy (n.insertAll pairs) = (m.overriddenBy n).insertAll pairs := by
  ext1 name
  rw [get?_overriddenBy, get?_insertAll, get?_insertAll, get?_overriddenBy, Option.or_assoc]

end OpenCLRegistry.NameMap
