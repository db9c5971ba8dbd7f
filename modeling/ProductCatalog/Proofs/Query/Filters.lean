import ProductCatalog.Query.Filter

/-! Which conditions a filter has. Each parameter of a client contributes its own, and one that is
absent or empty contributes none. -/

namespace ProductCatalog.Query

theorem present_eq_some_iff (parameter : Option String) (value : String) :
    present parameter = some value ↔ parameter = some value ∧ value ≠ "" := by
  rw [present, Option.filter_eq_some_iff, decide_eq_true_eq]

theorem mem_optional_iff (parameter : Option String) (conditions : String → List Predicate)
    (predicate : Predicate) :
    predicate ∈ ((present parameter).map conditions).getD [] ↔
      ∃ value, parameter = some value ∧ value ≠ "" ∧ predicate ∈ conditions value := by
  cases given : present parameter with
  | none =>
      have absent : ∀ value, ¬(parameter = some value ∧ value ≠ "") := by
        intro value asked
        rw [(present_eq_some_iff parameter value).mpr asked] at given
        simp at given
      constructor
      · intro member
        simp at member
      · rintro ⟨value, same, some_text, _⟩
        exact absurd ⟨same, some_text⟩ (absent value)
  | some text =>
      obtain ⟨rfl, some_text⟩ := (present_eq_some_iff parameter text).mp given
      constructor
      · intro member
        exact ⟨text, rfl, some_text, member⟩
      · rintro ⟨value, same, _, member⟩
        cases same
        exact member

def given (parameter : Option String) : Nat :=
  if (present parameter).isSome then 1 else 0

theorem given_le_one (parameter : Option String) : given parameter ≤ 1 := by
  unfold given
  split <;> omega

/-- How many conditions a client asks for: one by each parameter, and one by each comparison. -/
def conditionCount (parameters : Parameters) : Nat :=
  given parameters.featured + given parameters.company + given parameters.name +
    (comparisons (parameters.numericFilters.getD "").toList).length

theorem length_optional (parameter : Option String) (condition : String → Predicate) :
    (((present parameter).map fun value => [condition value]).getD []).length =
      given parameter := by
  unfold given
  cases present parameter <;> rfl

theorem length_predicates (parameters : Parameters) :
    (Filter.ofParameters parameters).predicates.length = conditionCount parameters := by
  have numeric :
      (((present parameters.numericFilters).map Filter.numericPredicates).getD []).length =
        (comparisons (parameters.numericFilters.getD "").toList).length := by
    cases parameters.numericFilters with
    | none => rfl
    | some text =>
        by_cases empty : text = ""
        · rw [empty]
          rfl
        · have kept : present (some text) = some text :=
            (present_eq_some_iff (some text) text).mpr ⟨rfl, empty⟩
          rw [kept]
          exact List.length_map _
  have featured := length_optional parameters.featured
    fun value => .equals .featured (.flag (value = "true"))
  have company := length_optional parameters.company fun value => .equals .company (.text value)
  have name := length_optional parameters.name .nameContains
  simp only [Filter.ofParameters, List.length_append, numeric, conditionCount, ← featured,
    ← company, ← name]
  rfl

/-- The conditions that a client can ask for. -/
inductive Asked (parameters : Parameters) : Predicate → Prop
  | featured {value} : parameters.featured = some value → value ≠ "" →
      Asked parameters (.equals .featured (.flag (value = "true")))
  | company {value} : parameters.company = some value → value ≠ "" →
      Asked parameters (.equals .company (.text value))
  | name {value} : parameters.name = some value → value ≠ "" →
      Asked parameters (.nameContains value)
  | compares {value comparison} : parameters.numericFilters = some value → value ≠ "" →
      comparison ∈ comparisons value.toList → Asked parameters (.compares comparison)

theorem mem_predicates_iff (parameters : Parameters) (predicate : Predicate) :
    predicate ∈ (Filter.ofParameters parameters).predicates ↔ Asked parameters predicate := by
  simp only [Filter.ofParameters, List.mem_append, mem_optional_iff]
  constructor
  · rintro (((⟨value, given, some_text, member⟩ | ⟨value, given, some_text, member⟩) |
      ⟨value, given, some_text, member⟩) | ⟨value, given, some_text, member⟩)
    · rw [List.mem_singleton.mp member]
      exact Asked.featured given some_text
    · rw [List.mem_singleton.mp member]
      exact Asked.company given some_text
    · rw [List.mem_singleton.mp member]
      exact Asked.name given some_text
    · obtain ⟨comparison, among, rfl⟩ := List.mem_map.mp member
      exact Asked.compares given some_text among
  · intro asked
    cases asked with
    | featured given some_text =>
        exact Or.inl (Or.inl (Or.inl ⟨_, given, some_text, List.mem_singleton_self _⟩))
    | company given some_text =>
        exact Or.inl (Or.inl (Or.inr ⟨_, given, some_text, List.mem_singleton_self _⟩))
    | name given some_text => exact Or.inl (Or.inr ⟨_, given, some_text, List.mem_singleton_self _⟩)
    | compares given some_text among =>
        exact Or.inr ⟨_, given, some_text, List.mem_map_of_mem among⟩

end ProductCatalog.Query
