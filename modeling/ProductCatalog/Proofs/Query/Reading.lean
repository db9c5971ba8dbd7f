import Mathlib.Data.Option.Basic
import ProductCatalog.Proofs.Query.Words

/-! Statements read as the engine reads them, with one value taken for each question mark from left
to right. What is read from the statement of a search is its filter, condition by condition, and its
policy. -/

namespace ProductCatalog.Query

inductive Condition where
  | always
  | equals (field : Field) (value : MatchValue)
  | like (pattern : String)
  | compares (comparison : Comparison)
deriving DecidableEq

/-- What a statement asks the engine for. -/
structure Plan where
  conditions : List Condition
  keys : List SortKey
  limit : Int
  skipped : Int

def Predicate.condition : Predicate → Condition
  | equals field value => .equals field value
  | nameContains needle => .like (needlePattern needle)
  | compares comparison => .compares comparison

def Filter.conditions (filter : Filter) : List Condition :=
  if filter.predicates = [] then [.always] else filter.predicates.map Predicate.condition

def findPlan (filter : Filter) (policy : Policy) : Plan where
  conditions := filter.conditions
  keys := policy.orderKeys
  limit := policy.limit.toNat
  skipped := min policy.offset.toNat maxSkip

def fieldOfColumn? (column : String) : Option Field :=
  Field.all.find? (·.column = column)

def numericOfColumn? (column : String) : Option NumericField :=
  NumericField.all.find? (·.field.column = column)

def comparatorOfSymbol? (symbol : String) : Option Comparator :=
  [Comparator.equal, .greater, .less, .greaterOrEqual, .lessOrEqual].find? (·.symbol = symbol)

/-- Reads one condition, and leaves the values that it does not take. -/
def readCondition? : List String → List BoundValue → Option (Condition × List BoundValue)
  | ["1=1"], values => some (.always, values)
  | [column, "=", "TRUE"], values =>
    (fieldOfColumn? column).map fun field => (.equals field (.flag true), values)
  | [column, "=", "FALSE"], values =>
    (fieldOfColumn? column).map fun field => (.equals field (.flag false), values)
  | [column, "=", "?"], .text value :: values =>
    (fieldOfColumn? column).map fun field => (.equals field (.text value), values)
  | [column, symbol, "?"], .real value :: values => do
    let field ← numericOfColumn? column
    let comparator ← comparatorOfSymbol? symbol
    return (.compares ⟨field, comparator, value⟩, values)
  | [column, "LIKE", "?", "ESCAPE", "'\\'"], .text pattern :: values =>
    if column = foldedNameColumn then some (.like pattern, values) else none
  | _, _ => none

def readConditions? : List (List String) → List BoundValue →
    Option (List Condition × List BoundValue)
  | [], values => some ([], values)
  | text :: rest, values => do
    let (condition, values) ← readCondition? text values
    let (conditions, values) ← readConditions? rest values
    return (condition :: conditions, values)

def readKey? : List String → Option SortKey
  | [column, "ASC"] => (fieldOfColumn? column).map (⟨·, .ascending⟩)
  | [column, "DESC"] => (fieldOfColumn? column).map (⟨·, .descending⟩)
  | _ => none

def cut? (keyword : String) : List String → Option (List String × List String)
  | [] => none
  | word :: rest =>
    if word = keyword then some ([], rest)
    else (cut? keyword rest).map fun (before, after) => (word :: before, after)

def readFind? (statement : Statement) : Option Plan := do
  let (start, rest) ← cut? "WHERE" (words statement.text)
  let (condition, rest) ← cut? "ORDER" rest
  let (order, rest) ← cut? "LIMIT" rest
  guard (start = words findStart)
  let (conditions, values) ← readConditions? (condition.splitOn "AND") statement.values
  match order, rest, values with
  | "BY" :: keys, ["?", "OFFSET", "?"], [.integer limit, .integer skipped] =>
    (keys.splitOn ",").mapM readKey? |>.map fun keys => { conditions, keys, limit, skipped }
  | _, _, _ => none

def readCount? (statement : Statement) : Option (List Condition) := do
  let (start, condition) ← cut? "WHERE" (words statement.text)
  guard (start = words countStart)
  let (conditions, values) ← readConditions? (condition.splitOn "AND") statement.values
  if values = [] then some conditions else none

theorem cut_append {keyword : String} {before : List String} (absent : keyword ∉ before)
    (after : List String) : cut? keyword (before ++ keyword :: after) = some (before, after) := by
  induction before with
  | nil => simp [cut?]
  | cons word before ih =>
      have apart : word ≠ keyword := fun same => absent (same ▸ List.mem_cons_self)
      have later : keyword ∉ before := fun member => absent (List.mem_cons_of_mem word member)
      rw [List.cons_append, cut?, if_neg apart, ih later]
      rfl

theorem Predicate.read_words (predicate : Predicate) (values : List BoundValue) :
    readCondition? predicate.words (predicate.bound ++ values) =
      some (predicate.condition, values) := by
  rcases predicate with ⟨field, ⟨_ | _⟩ | text⟩ | needle | ⟨field, comparator, value⟩
  · cases field <;> rfl
  · cases field <;> rfl
  · cases field <;> rfl
  · rfl
  · cases field <;> cases comparator <;> rfl

theorem readConditions_words (predicates : List Predicate) (values : List BoundValue) :
    readConditions? (predicates.map Predicate.words)
        (predicates.flatMap Predicate.bound ++ values) =
      some (predicates.map Predicate.condition, values) := by
  induction predicates with
  | nil => rfl
  | cons predicate rest ih =>
      rw [List.map_cons, List.flatMap_cons, List.append_assoc, readConditions?,
        predicate.read_words, Option.bind_eq_bind, Option.bind_some]
      simp only [ih, Option.bind_eq_bind, Option.bind_some, List.map_cons]
      rfl

/-- The conditions of a filter are read back with their own values, and no other value is taken. -/
theorem Filter.read_words (filter : Filter) (values : List BoundValue) :
    readConditions? (filter.words.splitOn "AND") ((filter.render []).values ++ values) =
      some (filter.conditions, values) := by
  rw [filter.render_values, List.nil_append, filter.splitOn_words]
  unfold Filter.conditions
  split
  · rename_i empty
    rw [empty]
    rfl
  · exact readConditions_words filter.predicates values

theorem SortKey.read_words (key : SortKey) : readKey? key.words = some key := by
  obtain ⟨field, direction⟩ := key
  cases direction <;> cases field <;> rfl

theorem Policy.read_orderWords (policy : Policy) :
    (policy.orderWords.splitOn ",").mapM readKey? = some policy.orderKeys := by
  unfold Policy.orderWords
  rw [List.splitOn_intercalate]
  · rw [List.mapM_map]
    induction policy.orderKeys with
    | nil => rfl
    | cons key rest ih =>
        rw [List.mapM_cons, Function.comp_apply, key.read_words, ih]
        rfl
  · intro part member
    obtain ⟨key, _, rfl⟩ := List.mem_map.mp member
    exact key.sign_not_mem_words "," (by decide)
  · simpa using orderKeys_ne_nil policy

/-- What the engine reads from the statement of a search is the filter, each condition with its own
values, and the order, the limit and the offset of the policy. -/
theorem readFind_findStatement (filter : Filter) (policy : Policy) :
    readFind? (findStatement filter policy) = some (findPlan filter policy) := by
  have where_absent : "WHERE" ∉ words findStart := by decide +kernel
  have limit_absent : "LIMIT" ∉ "BY" :: policy.orderWords := by
    simpa using policy.limit_not_mem_orderWords
  have values : (findStatement filter policy).values = (filter.render []).values ++
      [.integer policy.limit.toNat, .integer (min policy.offset.toNat maxSkip)] := rfl
  unfold readFind?
  rw [words_findStatement, cut_append where_absent]
  simp only [Option.bind_eq_bind, Option.bind_some, cut_append filter.order_not_mem_words,
    cut_append limit_absent, guard_true]
  rw [values, filter.read_words]
  simp only [Option.bind_some, policy.read_orderWords]
  rfl

theorem readCount_countStatement (filter : Filter) :
    readCount? (countStatement filter) = some filter.conditions := by
  have where_absent : "WHERE" ∉ words countStart := by decide +kernel
  have values : (countStatement filter).values = (filter.render []).values ++ [] :=
    (List.append_nil _).symm
  unfold readCount?
  rw [words_countStatement, cut_append where_absent]
  simp only [Option.bind_eq_bind, Option.bind_some, guard_true]
  rw [values, filter.read_words]
  rfl

end ProductCatalog.Query
