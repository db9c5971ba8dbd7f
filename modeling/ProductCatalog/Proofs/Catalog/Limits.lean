import ProductCatalog.Proofs.Catalog.Listing
import ProductCatalog.Proofs.Http.Status
import ProductCatalog.Proofs.Query.Filters
import ProductCatalog.Proofs.Text.Size

/-! When a listing fails. A client cannot make it fail but by exceeding one of two limits of the
engine: that on the conditions of a statement, and that on the length of a pattern. -/

namespace ProductCatalog.Catalog

open Query (Filter Parameters)
open Store (Connection Entry Refusal)

/-- A product that the conditions on the flag and on the company let through. Only such a product is
tested with a pattern. -/
structure Reached (parameters : Parameters) (row : Row) : Prop where
  featured : ∀ value, parameters.featured = some value → value ≠ "" →
    row.featured = decide (value = "true")
  company : ∀ value, parameters.company = some value → value ≠ "" → row.company = value

/-- The needle that a client asks for makes a pattern that is too long. -/
def AsksOverlong (parameters : Parameters) : Prop :=
  ∃ needle, parameters.name = some needle ∧ needle ≠ "" ∧
    Store.maxPatternSize < (Query.needlePattern needle).utf8ByteSize

/-- A product that all conditions but the one on the name let through. Whichever of them is tested
first, the name is tested too. -/
def Undecided (parameters : Parameters) (entry : Entry) : Prop :=
  ∀ predicate ∈ (Filter.ofParameters { parameters with name := none }).predicates,
    Store.holds entry predicate = true

/-- The limit that a search exceeds, in whatever order its conditions are tested. -/
inductive Exceeds (parameters : Parameters) (entries : List Entry) : Refusal → Prop
  | conditions : Store.conditionLimit ≤ Query.conditionCount parameters →
      Exceeds parameters entries .tooManyConditions
  | pattern {entry : Entry} : Query.conditionCount parameters < Store.conditionLimit →
      AsksOverlong parameters → entry ∈ entries → Undecided parameters entry →
      Exceeds parameters entries .patternTooLong

/-- A search among the rows keeps within the limits of the engine. -/
structure Fits (parameters : Parameters) (rows : List Row) : Prop where
  conditions : Query.conditionCount parameters < Store.conditionLimit
  pattern : AsksOverlong parameters → ∀ row ∈ rows, ¬Reached parameters row

theorem testsOverlong_optional {conditions : String → List Query.Predicate}
    (short : ∀ value, ∀ predicate ∈ conditions value, Store.isOverlong predicate = false)
    (parameter : Option String) (entry : Entry) :
    Store.testsOverlong entry (((Query.present parameter).map conditions).getD []) = false := by
  apply Store.testsOverlong_short
  intro predicate member
  obtain ⟨value, _, _, among⟩ := (Query.mem_optional_iff parameter conditions predicate).mp member
  exact short value predicate among

theorem testsOverlong_name (parameters : Parameters) (entry : Entry) :
    Store.testsOverlong entry
        (((Query.present parameters.name).map Filter.namePredicates).getD []) = true ↔
      AsksOverlong parameters := by
  unfold AsksOverlong
  cases given : Query.present parameters.name with
  | none =>
      constructor
      · intro tested
        simp [Store.testsOverlong] at tested
      · rintro ⟨needle, asked, some_text, _⟩
        rw [(Query.present_eq_some_iff parameters.name needle).mpr ⟨asked, some_text⟩] at given
        simp at given
  | some needle =>
      obtain ⟨asked, some_text⟩ := (Query.present_eq_some_iff parameters.name needle).mp given
      simp only [Option.map_some, Option.getD_some, Filter.namePredicates, Store.testsOverlong,
        Store.isOverlong, Bool.and_false, Bool.or_false, decide_eq_true_eq]
      constructor
      · intro overlong
        exact ⟨needle, asked, some_text, overlong⟩
      · rintro ⟨other, same, _, overlong⟩
        rw [asked] at same
        cases same
        exact overlong

theorem testsOverlong_iff (parameters : Parameters) (entry : Entry) :
    Store.testsOverlong entry (Filter.ofParameters parameters).predicates = true ↔
      Reached parameters entry.row ∧ AsksOverlong parameters := by
  have featured_short : ∀ value, ∀ predicate ∈ Filter.featuredPredicates value,
      Store.isOverlong predicate = false := by
    intro value predicate member
    rw [List.mem_singleton.mp member]
    rfl
  have company_short : ∀ value, ∀ predicate ∈ Filter.companyPredicates value,
      Store.isOverlong predicate = false := by
    intro value predicate member
    rw [List.mem_singleton.mp member]
    rfl
  have numeric_short : ∀ value, ∀ predicate ∈ Filter.numericPredicates value,
      Store.isOverlong predicate = false := by
    intro value predicate member
    obtain ⟨comparison, _, rfl⟩ := List.mem_map.mp member
    rfl
  simp only [Filter.ofParameters, Store.testsOverlong_append, List.all_append,
    testsOverlong_optional featured_short, testsOverlong_optional company_short,
    testsOverlong_optional numeric_short, Bool.and_false, Bool.or_false, Bool.false_or,
    Bool.and_eq_true, testsOverlong_name, Store.all_asked]
  simp only [Filter.featuredPredicates, Filter.companyPredicates, List.all_cons, List.all_nil,
    Bool.and_true, Store.holds, Store.equalsField, beq_iff_eq]
  constructor
  · rintro ⟨⟨featured, company⟩, overlong⟩
    exact ⟨⟨featured, company⟩, overlong⟩
  · rintro ⟨reached, overlong⟩
    exact ⟨⟨reached.featured, reached.company⟩, overlong⟩

theorem anyTestsOverlong_iff (entries : List Entry) (parameters : Parameters) :
    entries.any (Store.testsOverlong · (Filter.ofParameters parameters).predicates) = true ↔
      AsksOverlong parameters ∧ ∃ row ∈ entries.map (·.row), Reached parameters row := by
  simp only [List.any_eq_true, testsOverlong_iff]
  constructor
  · rintro ⟨entry, member, reached, overlong⟩
    exact ⟨overlong, entry.row, List.mem_map_of_mem member, reached⟩
  · rintro ⟨overlong, row, member, reached⟩
    obtain ⟨entry, belongs, rfl⟩ := List.mem_map.mp member
    exact ⟨entry, belongs, reached, overlong⟩

theorem Undecided.reached {parameters : Parameters} {entry : Entry}
    (undecided : Undecided parameters entry) : Reached parameters entry.row := by
  have passed (predicate : Query.Predicate)
      (asked : Query.Asked { parameters with name := none } predicate) :
      Store.holds entry predicate = true :=
    undecided predicate ((Query.mem_predicates_iff _ predicate).mpr asked)
  constructor
  · intro value given some_text
    simpa [Store.holds, Store.equalsField] using passed _ (.featured given some_text)
  · intro value given some_text
    simpa [Store.holds, Store.equalsField] using passed _ (.company given some_text)

/-- An open connection to a database that is up to date, whether or not its table was made with the
checks on names and companies. -/
def ready (entries : List Entry) (lastId : Nat) (checked : Bool) : Connection where
  database :=
    { version := .number Store.supportedVersion
      products := some { contents := .folded entries, lastId, checked } }

theorem objection_ready (entries : List Entry) (lastId : Nat) (checked : Bool)
    (parameters : Parameters) :
    (ready entries lastId checked).database.objection? (.ofParameters parameters) =
      if Store.conditionLimit ≤ Query.conditionCount parameters then some .tooManyConditions
      else if entries.any (Store.testsOverlong · (Filter.ofParameters parameters).predicates) then
        some .patternTooLong
      else none := by
  rw [← Query.length_predicates]
  rfl

theorem objection_of_fits {entries : List Entry} {parameters : Parameters}
    (fits : Fits parameters (entries.map (·.row))) (lastId : Nat) (checked : Bool) :
    (ready entries lastId checked).database.objection? (.ofParameters parameters) = none := by
  have few := fits.conditions
  have untested : ¬entries.any
      (Store.testsOverlong · (Filter.ofParameters parameters).predicates) = true := by
    rw [anyTestsOverlong_iff]
    rintro ⟨asks, row, member, reached⟩
    exact fits.pattern asks row member reached
  rw [objection_ready, if_neg (by omega), if_neg untested]

theorem objection_of_exceeds {entries : List Entry} {parameters : Parameters} {refusal : Refusal}
    (exceeds : Exceeds parameters entries refusal) (lastId : Nat) (checked : Bool) :
    (ready entries lastId checked).database.objection? (.ofParameters parameters) =
      some refusal := by
  cases exceeds with
  | conditions many => rw [objection_ready, if_pos many]
  | pattern few asks member undecided =>
      have tested :
          entries.any (Store.testsOverlong · (Filter.ofParameters parameters).predicates) = true :=
        (anyTestsOverlong_iff entries parameters).mpr
          ⟨asks, _, List.mem_map_of_mem member, undecided.reached⟩
      rw [objection_ready, if_neg (by omega), if_pos tested]

theorem list_of_fits {entries : List Entry} {parameters : Parameters}
    (fits : Fits parameters (entries.map (·.row))) (lastId : Nat) (checked : Bool) :
    ∃ listing, list parameters (ready entries lastId checked) =
      (.ok listing, ready entries lastId checked) := by
  have isOpen : (ready entries lastId checked).isOpen = true := rfl
  have executed := execute_eq (.ofParameters parameters) (.ofParameters parameters) isOpen
  rw [Store.find_eq, Store.count_eq, objection_of_fits fits] at executed
  exact ⟨_, executed⟩

theorem list_of_exceeds {entries : List Entry} {parameters : Parameters} {refusal : Refusal}
    (exceeds : Exceeds parameters entries refusal) (lastId : Nat) (checked : Bool) :
    list parameters (ready entries lastId checked) =
      (.error (.ofRefusal refusal), ready entries lastId checked) := by
  have isOpen : (ready entries lastId checked).isOpen = true := rfl
  have executed := execute_eq (.ofParameters parameters) (.ofParameters parameters) isOpen
  rw [Store.find_eq, objection_of_exceeds exceeds] at executed
  exact executed

/-- A search with few conditions and a short needle fits, whatever it is and whatever is stored. -/
theorem fits_of_small {parameters : Parameters}
    (clauses : (parameters.numericFilters.getD "").toList.count ',' < 996)
    (needle : (parameters.name.getD "").length < 12500) (rows : List Row) :
    Fits parameters rows := by
  constructor
  · have featured := Query.given_le_one parameters.featured
    have company := Query.given_le_one parameters.company
    have name := Query.given_le_one parameters.name
    have numeric := Query.length_comparisons_le (parameters.numericFilters.getD "").toList
    unfold Query.conditionCount Store.conditionLimit
    omega
  · rintro ⟨text, asked, _, overlong⟩
    have size := (Text.needlePattern_size text).2
    rw [asked, Option.getD_some] at needle
    unfold Store.maxPatternSize at overlong
    omega

/-- A listing succeeds whatever a client writes, as long as that keeps within the limits of the
engine. Where it exceeds one, in whatever order the conditions are tested, the listing is refused:
the client is told of a failure, and the connection stays as it is. -/
theorem list_limited (entries : List Entry) (lastId : Nat) (checked : Bool) :
    (∀ parameters : Parameters,
      (Fits parameters (entries.map (·.row)) → ∃ listing,
        list parameters (ready entries lastId checked) =
          (.ok listing, ready entries lastId checked)) ∧
      ∀ refusal, Exceeds parameters entries refusal →
        list parameters (ready entries lastId checked) =
          (.error (.ofRefusal refusal), ready entries lastId checked)) ∧
    ∀ (origins : List String) (query : Option (List Char)) (headers : List (String × String)),
      let request := Http.productsRequest query headers
      let status := (Http.respond (ready entries lastId checked) origins request).status
      (Fits (.ofPairs request.pairs) (entries.map (·.row)) → status = 200) ∧
      ∀ refusal, Exceeds (.ofPairs request.pairs) entries refusal → status = 500 := by
  constructor
  · intro parameters
    constructor
    · exact fun fits => list_of_fits fits lastId checked
    · exact fun refusal exceeds => list_of_exceeds exceeds lastId checked
  · intro origins query headers
    simp only [Http.status_productsRequest]
    constructor
    · intro fits
      obtain ⟨listing, listed⟩ := list_of_fits fits lastId checked
      rw [listed]
      rfl
    · intro refusal exceeds
      rw [list_of_exceeds exceeds]
      rfl

def repeatedClause (count : Nat) : String :=
  String.ofList ([','].intercalate (List.replicate count "price>0".toList))

def repeatedLetter (count : Nat) : String :=
  String.ofList (List.replicate count 'a')

theorem exceeds_repeatedClause {count : Nat} (many : Store.conditionLimit ≤ count)
    (entries : List Entry) :
    Exceeds { numericFilters := some (repeatedClause count) } entries .tooManyConditions := by
  have reads : Query.Reads "price>0".toList (.ok ⟨.price, .greater, 0.0⟩) := by
    apply (Query.ofTokens_eq_iff (by decide) _).mp
    rfl
  apply Exceeds.conditions
  cases count with
  | zero => simp [Store.conditionLimit] at many
  | succ others =>
      have read := Query.comparisons_replicate (by decide) reads others
      have numeric : (Query.comparisons (repeatedClause (others + 1)).toList).length =
          others + 1 := by
        rw [repeatedClause, String.toList_ofList, read, List.length_replicate]
      simp only [Query.conditionCount, Option.getD_some, numeric]
      omega

theorem exceeds_repeatedLetter {count : Nat} (many : Store.maxPatternSize ≤ count) {entry : Entry}
    {entries : List Entry} (member : entry ∈ entries) :
    Exceeds { name := some (repeatedLetter count) } entries .patternTooLong := by
  have length : (repeatedLetter count).length = count := by
    rw [repeatedLetter, String.length_ofList, List.length_replicate]
  have some_text : repeatedLetter count ≠ "" := by
    intro empty
    rw [empty, String.length_empty] at length
    simp [Store.maxPatternSize, ← length] at many
  have size := (Text.needlePattern_size (repeatedLetter count)).1
  have overlong : AsksOverlong { name := some (repeatedLetter count) } :=
    ⟨repeatedLetter count, rfl, some_text, by omega⟩
  have few : Query.conditionCount { name := some (repeatedLetter count) } <
      Store.conditionLimit := by
    have one := Query.given_le_one (some (repeatedLetter count))
    change 0 + 0 + Query.given (some (repeatedLetter count)) + 0 < 1000
    omega
  apply Exceeds.pattern few overlong member
  intro predicate asked
  exact absurd asked List.not_mem_nil

/-- Both limits are within the reach of a client. -/
theorem list_not_total :
    (¬∃ listing, (list { numericFilters := some (repeatedClause 1000) }
      (ready [Store.newEntry 1 0 lamp] 1 true)).1 = .ok listing) ∧
    ¬∃ listing, (list { name := some (repeatedLetter 50000) }
      (ready [Store.newEntry 1 0 lamp] 1 true)).1 = .ok listing := by
  have clauses := @exceeds_repeatedClause 1000 (Nat.le_refl _) [Store.newEntry 1 0 lamp]
  have letters := @exceeds_repeatedLetter 50000 (Nat.le_refl _) _ _
    (List.mem_singleton_self (Store.newEntry 1 0 lamp))
  constructor
  · rintro ⟨listing, listed⟩
    rw [list_of_exceeds clauses] at listed
    cases listed
  · rintro ⟨listing, listed⟩
    rw [list_of_exceeds letters] at listed
    cases listed

end ProductCatalog.Catalog
