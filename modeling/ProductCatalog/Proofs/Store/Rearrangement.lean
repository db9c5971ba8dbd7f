import ProductCatalog.Proofs.Query.Rearrangement
import ProductCatalog.Proofs.Store.Engine
import ProductCatalog.Store.Connection

/-! Searches by the same conditions. In which order the conditions stand and how often makes no
difference to the answers, as long as the engine takes the statements. -/

namespace ProductCatalog.Store

open Query (Filter Policy Predicate)

/-- The limits of the engine on conditions and on patterns. -/
structure WithinLimits (filter : Filter) : Prop where
  conditions : filter.predicates.length < conditionLimit
  patterns : ∀ needle, .nameContains needle ∈ filter.predicates →
    (Query.needlePattern needle).utf8ByteSize ≤ maxPatternSize

theorem WithinLimits.short {filter : Filter} (within : WithinLimits filter) :
    ∀ predicate ∈ filter.predicates, isOverlong predicate = false := by
  intro predicate member
  cases predicate with
  | equals field value => rfl
  | nameContains needle => simpa [isOverlong] using within.patterns needle member
  | compares comparison => rfl

/-- The store answers alike, and so does the engine to the statements. -/
structure AnswersAlike (left right : Filter) : Prop where
  find : ∀ policy, Store.find left policy = Store.find right policy
  count : Store.count left = Store.count right
  found : ∀ (database : Database) (policy : Policy),
    database.answerFind? (Query.findStatement left policy) =
      database.answerFind? (Query.findStatement right policy)
  counted : ∀ database : Database,
    database.answerCount? (Query.countStatement left) =
      database.answerCount? (Query.countStatement right)

theorem answersAlike_of_select {left right : Filter}
    (same : ∀ database : Database, database.select left = database.select right) :
    AnswersAlike left right := by
  refine ⟨?_, ?_, ?_, ?_⟩
  · intro policy
    simp only [Store.find, Database.find, same]
  · simp only [Store.count, Database.count, same]
  · intro database policy
    simp only [Database.answerFind?, Query.readFind_findStatement, Option.map_some, Query.findPlan,
      selectWhere_conditions, same]
  · intro database
    simp only [Database.answerCount?, Query.readCount_countStatement, Option.map_some,
      selectWhere_conditions, same]

theorem all_congr_mem {α : Type} {left right : List α} (same : ∀ item, item ∈ left ↔ item ∈ right)
    (test : α → Bool) : left.all test = right.all test := by
  rw [Bool.eq_iff_iff, List.all_eq_true, List.all_eq_true]
  exact forall_congr' fun item => imp_congr_left (same item)

theorem any_congr_mem {α : Type} {left right : List α} (same : ∀ item, item ∈ left ↔ item ∈ right)
    (test : α → Bool) : left.any test = right.any test := by
  rw [Bool.eq_iff_iff, List.any_eq_true, List.any_eq_true]
  exact exists_congr fun item => and_congr_left fun _ => same item

theorem select_congr {left right : Filter}
    (same : ∀ predicate, predicate ∈ left.predicates ↔ predicate ∈ right.predicates)
    (leftWithin : WithinLimits left) (rightWithin : WithinLimits right) (database : Database) :
    database.select left = database.select right := by
  have untested (entry : Entry) :
      testsOverlong entry left.predicates = testsOverlong entry right.predicates := by
    rw [testsOverlong_short leftWithin.short, testsOverlong_short rightWithin.short]
  have objection : database.objection? left = database.objection? right := by
    simp only [Database.objection?, if_neg (Nat.not_le.mpr leftWithin.conditions),
      if_neg (Nat.not_le.mpr rightWithin.conditions), any_congr_mem same, untested]
  have matching : database.matching left = database.matching right := by
    simp only [Database.matching, all_congr_mem same]
  rw [select_eq, select_eq, objection, matching]

end ProductCatalog.Store
