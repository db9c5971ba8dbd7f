import ProductCatalog.Proofs.Query.Reading
import ProductCatalog.Proofs.Store.Selection

/-! What the engine does with the statement of a search: it reads the text, takes the values one by
one, and answers by what it has read. The searches of the store are the answers to their own
statements. -/

namespace ProductCatalog.Store

open Query (Condition Filter Plan Policy Predicate Statement)

def testCondition (entry : Entry) : Condition → Except Fault Bool
  | .always => .ok true
  | .equals field value => .ok (equalsField entry.row field value)
  | .like pattern =>
    if maxPatternSize < pattern.utf8ByteSize then .error (.ofRefusal .patternTooLong)
    else .ok (Text.Like.isMatch pattern.toList entry.foldedName.toList)
  | .compares comparison =>
    .ok (holdsBetween (numericValue entry.row comparison.field) comparison.comparator
      comparison.value)

def testAll (entry : Entry) : List Condition → Except Fault Bool
  | [] => .ok true
  | condition :: rest => do
    if ← testCondition entry condition then testAll entry rest else return false

def isLike : Condition → Bool
  | .like _ => true
  | .always | .equals _ _ | .compares _ => false

def Database.selectWhere (database : Database) (conditions : List Condition) :
    Except Fault (List Row) := do
  if conditionLimit ≤ conditions.length then throw (.ofRefusal .tooManyConditions)
  match database.products with
  | none => throw (.ofRefusal .noTable)
  | some table =>
    if table.contents.isPlain && conditions.any isLike then throw (.ofRefusal .noFoldedName)
    let passing ← table.contents.entries.filterM fun entry => testAll entry conditions
    return passing.map (·.row)

/-- The answer to a statement that finds products, if it can be read. -/
def Database.answerFind? (database : Database) (statement : Statement) :
    Option (Except Fault (List Row)) :=
  (Query.readFind? statement).map fun plan =>
    (database.selectWhere plan.conditions).map fun rows =>
      ((sortBy plan.keys rows).drop plan.skipped.toNat).take plan.limit.toNat

def Database.answerCount? (database : Database) (statement : Statement) :
    Option (Except Fault Nat) :=
  (Query.readCount? statement).map fun conditions =>
    (database.selectWhere conditions).map List.length

theorem testCondition_condition (entry : Entry) (predicate : Predicate) :
    testCondition entry predicate.condition = meets entry predicate := by
  cases predicate <;> rfl

theorem testAll_map (entry : Entry) (predicates : List Predicate) :
    testAll entry (predicates.map Predicate.condition) = meetsAll entry predicates := by
  induction predicates with
  | nil => rfl
  | cons predicate rest ih =>
      simp only [List.map_cons, testAll, meetsAll, testCondition_condition, ih]

theorem testAll_conditions (entry : Entry) (filter : Filter) :
    testAll entry filter.conditions = meetsAll entry filter.predicates := by
  unfold Filter.conditions
  split
  · rename_i empty
    rw [empty]
    rfl
  · exact testAll_map entry filter.predicates

theorem any_isLike_conditions (filter : Filter) :
    filter.conditions.any isLike = filter.predicates.any needsFoldedName := by
  unfold Filter.conditions
  split
  · rename_i empty
    rw [empty]
    rfl
  · rw [List.any_map]
    congr 1
    funext predicate
    cases predicate <;> rfl

theorem tooMany_conditions (filter : Filter) :
    conditionLimit ≤ filter.conditions.length ↔ conditionLimit ≤ filter.predicates.length := by
  unfold Filter.conditions
  split
  · rename_i empty
    rw [empty]
    decide
  · rw [List.length_map]

theorem selectWhere_conditions (database : Database) (filter : Filter) :
    database.selectWhere filter.conditions = database.select filter := by
  obtain ⟨version, products⟩ := database
  simp only [Database.selectWhere, Database.select, testAll_conditions, any_isLike_conditions,
    tooMany_conditions]
  by_cases many : conditionLimit ≤ filter.predicates.length
  · simp [many, bind, Except.bind, throw, throwThe, MonadExceptOf.throw]
  · cases products with
    | none => simp [many]
    | some table =>
        simp only [many, if_false, entriesFor_eq]
        by_cases nameless : table.contents.isPlain && filter.predicates.any needsFoldedName
        · simp [nameless, bind, Except.bind, throw, throwThe, MonadExceptOf.throw]
        · simp [nameless, bind, Except.bind]

end ProductCatalog.Store
