import Mathlib.Data.List.Basic
import ProductCatalog.Catalog.Service

/-! What the pairs of a query come to. Only the first value of each known key is looked at, and an
empty one is as good as none. -/

namespace ProductCatalog.Query

/-- A value that stands in the first pair with its key. -/
def IsFirstValue (pairs : List (String × String)) (key value : String) : Prop :=
  ∃ before after, pairs = before ++ (key, value) :: after ∧ ∀ pair ∈ before, pair.1 ≠ key

theorem lookup_eq_some_iff {pairs : List (String × String)} {key value : String} :
    pairs.lookup key = some value ↔ IsFirstValue pairs key value := by
  simp only [List.lookup_eq_some_iff, bne_iff_ne, IsFirstValue, ne_comm]

namespace Parameters

/-- The keys that are known. -/
def keys : List String :=
  ["featured", "company", "name", "sort", "fields", "numericFilters", "page", "limit"]

theorem entries_ofPairs (pairs : List (String × String)) :
    (ofPairs pairs).entries = keys.map fun key => (key, pairs.lookup key) := rfl

theorem mem_entries_ofPairs {pairs : List (String × String)} {key value : String} :
    (key, some value) ∈ (ofPairs pairs).entries ↔ key ∈ keys ∧ IsFirstValue pairs key value := by
  rw [entries_ofPairs, List.mem_map, ← lookup_eq_some_iff]
  constructor
  · rintro ⟨known, member, same⟩
    obtain ⟨rfl, found⟩ := Prod.mk.inj same
    exact ⟨member, found⟩
  · rintro ⟨member, found⟩
    exact ⟨key, member, by rw [found]⟩

/-- Two lists of pairs of which each known key has the same first value, or in both none or an empty
one. -/
def Agree (first second : List (String × String)) : Prop :=
  ∀ key ∈ keys, present (first.lookup key) = present (second.lookup key)

instance (first second : List (String × String)) : Decidable (Agree first second) :=
  inferInstanceAs
    (Decidable (∀ key ∈ keys, present (first.lookup key) = present (second.lookup key)))

theorem filter_of_agree {first second : List (String × String)} (agree : Agree first second) :
    Filter.ofParameters (ofPairs first) = Filter.ofParameters (ofPairs second) := by
  simp only [Filter.ofParameters, ofPairs, agree "featured" (by decide),
    agree "company" (by decide), agree "name" (by decide), agree "numericFilters" (by decide)]

theorem policy_of_agree {first second : List (String × String)} (agree : Agree first second) :
    Policy.ofParameters (ofPairs first) = Policy.ofParameters (ofPairs second) := by
  simp only [Policy.ofParameters, ofPairs, agree "sort" (by decide), agree "fields" (by decide),
    agree "page" (by decide), agree "limit" (by decide)]

theorem list_of_agree {first second : List (String × String)} (agree : Agree first second) :
    Catalog.list (ofPairs first) = Catalog.list (ofPairs second) := by
  rw [Catalog.list, Catalog.list, filter_of_agree agree, policy_of_agree agree]

end Parameters

end ProductCatalog.Query
