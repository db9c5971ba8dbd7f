import Mathlib.Algebra.GroupWithZero.Nat
import Mathlib.Data.List.Forall2
import ProductCatalog.Proofs.Query.Filters
import ProductCatalog.Proofs.Query.Sorting
import ProductCatalog.Proofs.Query.Words

/-! The texts of statements. Whatever a client writes, a text is put together from parts that are
fixed beforehand, and each of its question marks stands for one value of its own. -/

namespace ProductCatalog.Query

/-- All conditions that occur in statements. -/
def fragments : List String :=
  ["featured = TRUE", "featured = FALSE", "company = ?", "name_folded LIKE ? ESCAPE '\\'",
    "price = ?", "price > ?", "price < ?", "price >= ?", "price <= ?",
    "rating = ?", "rating > ?", "rating < ?", "rating >= ?", "rating <= ?"]

def columns : List String :=
  ["id", "name", "price", "rating", "company", "featured", "created_at"]

def IsCondition (text : String) : Prop :=
  text = "1=1" ∨ ∃ parts, parts ≠ [] ∧ (∀ part ∈ parts, part ∈ fragments) ∧
    text = " AND ".intercalate parts

/-- Each column is named at most once, and the identity is among them. -/
def IsOrder (text : String) : Prop :=
  ∃ terms : List (String × String),
    (∀ term ∈ terms, term.1 ∈ columns ∧ term.2 ∈ ["ASC", "DESC"]) ∧
    (terms.map (·.1)).Nodup ∧ "id" ∈ terms.map (·.1) ∧
    text = ", ".intercalate (terms.map fun term => term.1 ++ " " ++ term.2)

def questionMarks (text : String) : Nat :=
  text.toList.count '?'

theorem questionMarks_append (front back : String) :
    questionMarks (front ++ back) = questionMarks front + questionMarks back := by
  rw [questionMarks, String.toList_append, List.count_append]
  rfl

/-- The text of a condition. It has nothing of the texts and numbers in it. -/
def Predicate.fragment : Predicate → String
  | equals field (.flag value) => field.column ++ if value then " = TRUE" else " = FALSE"
  | equals field (.text _) => field.column ++ " = ?"
  | nameContains _ => "name_folded LIKE ? ESCAPE '\\'"
  | compares ⟨field, comparator, _⟩ => field.field.column ++ " " ++ comparator.symbol ++ " ?"

theorem Predicate.render_text (predicate : Predicate) (values : List BoundValue) :
    (predicate.render values).text = predicate.fragment := by
  rcases predicate with ⟨field, ⟨_ | _⟩ | text⟩ | needle | comparison <;> rfl

theorem Predicate.questionMarks_fragment (predicate : Predicate) :
    questionMarks predicate.fragment = predicate.bound.length := by
  rcases predicate with ⟨field, value | text⟩ | needle | ⟨field, comparator, value⟩
  · cases value <;> cases field <;> decide
  · change questionMarks (field.column ++ " = ?") = 1
    cases field <;> decide
  · change questionMarks "name_folded LIKE ? ESCAPE '\\'" = 1
    decide
  · change questionMarks (field.field.column ++ " " ++ comparator.symbol ++ " ?") = 1
    cases field <;> cases comparator <;> decide

theorem Asked.fragment_mem {parameters : Parameters} {predicate : Predicate}
    (asked : Asked parameters predicate) : predicate.fragment ∈ fragments := by
  cases asked with
  | @featured value _ _ => cases decide (value = "true") <;> decide
  | company _ _ =>
      change "company = ?" ∈ fragments
      decide
  | name _ _ =>
      change "name_folded LIKE ? ESCAPE '\\'" ∈ fragments
      decide
  | @compares _ comparison _ _ _ =>
      obtain ⟨field, comparator, value⟩ := comparison
      change field.field.column ++ " " ++ comparator.symbol ++ " ?" ∈ fragments
      cases field <;> cases comparator <;> decide

theorem Filter.render_text (filter : Filter) :
    (filter.render []).text =
      if filter.predicates = [] then "1=1"
      else " AND ".intercalate (filter.predicates.map Predicate.fragment) := by
  unfold Filter.render
  split
  · rfl
  · simp only [renderEach_eq, Predicate.render_text]

theorem isCondition_render (parameters : Parameters) :
    IsCondition ((Filter.ofParameters parameters).render []).text := by
  rw [Filter.render_text]
  split
  · exact Or.inl rfl
  · rename_i some_predicate
    refine Or.inr ⟨_, ?_, ?_, rfl⟩
    · simpa using some_predicate
    · intro part member
      obtain ⟨predicate, among, rfl⟩ := List.mem_map.mp member
      exact ((mem_predicates_iff parameters predicate).mp among).fragment_mem

def Direction.keyword : Direction → String
  | .ascending => "ASC"
  | .descending => "DESC"

theorem Direction.keyword_mem (direction : Direction) : direction.keyword ∈ ["ASC", "DESC"] := by
  cases direction <;> decide

theorem SortKey.render_eq (key : SortKey) :
    key.render = key.field.column ++ " " ++ key.direction.keyword := by
  obtain ⟨field, direction⟩ := key
  cases direction with
  | ascending => rw [SortKey.render, String.append_assoc]; rfl
  | descending => rw [SortKey.render, String.append_assoc]; rfl

theorem column_mem_columns (field : Field) : field.column ∈ columns := by
  cases field <;> decide

theorem column_injective : Function.Injective Field.column := by
  intro left right same
  cases left <;> cases right <;> first | rfl | exact absurd same (by decide)

theorem isOrder_renderOrder {policy : Policy} (distinct : (sortFields policy.sort).Nodup) :
    IsOrder policy.renderOrder := by
  have columnsEq : (policy.orderKeys.map fun key => (key.field.column, key.direction.keyword)).map
      (·.1) = (sortFields policy.orderKeys).map Field.column := by
    simp [sortFields]
  refine ⟨policy.orderKeys.map fun key => (key.field.column, key.direction.keyword), ?_, ?_, ?_, ?_⟩
  · intro term member
    obtain ⟨key, _, rfl⟩ := List.mem_map.mp member
    exact ⟨column_mem_columns key.field, key.direction.keyword_mem⟩
  · rw [columnsEq]
    exact (orderKeys_nodup distinct).map column_injective
  · rw [columnsEq]
    exact List.mem_map_of_mem (id_mem_orderKeys policy)
  · rw [Policy.renderOrder, List.map_map]
    congr 1
    apply List.map_congr_left
    intro key _
    exact key.render_eq

/-- The part of a joined text that stands before one of its parts has the question marks of the
parts before. -/
theorem intercalate_split {separator : String} (plain : questionMarks separator = 0)
    (before : List String) (text : String) (after : List String) :
    ∃ front back, separator.intercalate (before ++ text :: after) = front ++ text ++ back ∧
      questionMarks front = (before.map questionMarks).sum := by
  induction before with
  | nil =>
      cases after with
      | nil => exact ⟨"", "", by simp, rfl⟩
      | cons next others =>
          refine ⟨"", separator ++ separator.intercalate (next :: others), ?_, rfl⟩
          rw [List.nil_append, String.intercalate_cons_cons, String.empty_append,
            String.append_assoc]
  | cons first rest ih =>
      obtain ⟨front, back, joined, marks⟩ := ih
      refine ⟨first ++ separator ++ front, back, ?_, ?_⟩
      · cases rest with
        | nil =>
            rw [List.nil_append] at joined
            rw [List.cons_append, List.nil_append, String.intercalate_cons_cons, joined]
            simp only [String.append_assoc]
        | cons second others =>
            rw [List.cons_append] at joined
            rw [List.cons_append, List.cons_append, String.intercalate_cons_cons, joined]
            simp only [String.append_assoc]
      · rw [questionMarks_append, questionMarks_append, plain, marks]
        simp

theorem Filter.render_values_nil (filter : Filter) :
    (filter.render []).values = filter.predicates.flatMap Predicate.bound := by
  rw [filter.render_values, List.nil_append]

theorem sum_questionMarks (predicates : List Predicate) :
    ((predicates.map Predicate.fragment).map questionMarks).sum =
      (predicates.flatMap Predicate.bound).length := by
  rw [List.length_flatMap, List.map_map]
  congr 1
  apply List.map_congr_left
  intro predicate _
  exact predicate.questionMarks_fragment

theorem questionMarks_intercalate {separator : String} (plain : questionMarks separator = 0)
    (texts : List String) :
    questionMarks (separator.intercalate texts) = (texts.map questionMarks).sum := by
  induction texts with
  | nil => rfl
  | cons first rest ih =>
      cases rest with
      | nil => simp
      | cons second others =>
          rw [String.intercalate_cons_cons, questionMarks_append, questionMarks_append, plain, ih]
          simp

theorem Filter.questionMarks_render (filter : Filter) :
    questionMarks (filter.render []).text = (filter.render []).values.length := by
  rw [filter.render_text, filter.render_values_nil]
  split
  · rename_i empty
    rw [empty]
    decide
  · rw [questionMarks_intercalate (by decide), sum_questionMarks]

/-- The text of a condition and the values beside it are in step: at the place of a predicate as
many values are used up as predicates before it carry, and its own come next. -/
theorem Filter.render_split {filter : Filter} {before after : List Predicate}
    {predicate : Predicate} (split : filter.predicates = before ++ predicate :: after) :
    ∃ front back, (filter.render []).text = front ++ predicate.fragment ++ back ∧
      questionMarks front = (before.flatMap Predicate.bound).length ∧
      ((filter.render []).values.drop (questionMarks front)).take
        (questionMarks predicate.fragment) = predicate.bound := by
  have plain : questionMarks " AND " = 0 := by decide
  obtain ⟨front, back, text, marks⟩ := intercalate_split plain (before.map Predicate.fragment)
    predicate.fragment (after.map Predicate.fragment)
  rw [sum_questionMarks] at marks
  refine ⟨front, back, ?_, marks, ?_⟩
  · rw [filter.render_text, if_neg (by simp [split]), split, List.map_append, List.map_cons, text]
  · rw [marks, predicate.questionMarks_fragment, filter.render_values_nil, split,
      List.flatMap_append, List.flatMap_cons, List.drop_left, List.take_left]

/-- Conditions that differ in texts and numbers at most. -/
inductive SameShape : Predicate → Predicate → Prop
  | flag {field value} : SameShape (.equals field (.flag value)) (.equals field (.flag value))
  | text {field left right} : SameShape (.equals field (.text left)) (.equals field (.text right))
  | name {left right} : SameShape (.nameContains left) (.nameContains right)
  | number {field comparator left right} :
      SameShape (.compares ⟨field, comparator, left⟩) (.compares ⟨field, comparator, right⟩)

theorem SameShape.fragment_eq {left right : Predicate} (shape : SameShape left right) :
    left.fragment = right.fragment := by
  cases shape <;> rfl

theorem fragments_congr {left right : List Predicate} (shape : List.Forall₂ SameShape left right) :
    left.map Predicate.fragment = right.map Predicate.fragment := by
  induction shape with
  | nil => rfl
  | cons first _ ih => rw [List.map_cons, List.map_cons, first.fragment_eq, ih]

theorem render_text_congr {left right : Filter}
    (shape : List.Forall₂ SameShape left.predicates right.predicates) :
    (left.render []).text = (right.render []).text := by
  have texts := fragments_congr shape
  have none : left.predicates = [] ↔ right.predicates = [] := by
    rw [← List.map_eq_nil_iff, texts, List.map_eq_nil_iff]
  simp only [Filter.render_text, texts, none]

theorem renderOrder_congr {left right : Policy} (same : left.sort = right.sort) :
    left.renderOrder = right.renderOrder := by
  simp only [Policy.renderOrder, Policy.orderKeys, same]

theorem findStatement_eq (filter : Filter) (policy : Policy) :
    findStatement filter policy =
      ⟨"SELECT id, name, price, rating, company, featured, created_at FROM products WHERE " ++
        (filter.render []).text ++ " ORDER BY " ++ policy.renderOrder ++ " LIMIT ? OFFSET ?",
        (filter.render []).values ++
          [.integer policy.limit.toNat, .integer (min policy.offset.toNat maxSkip)]⟩ := rfl

theorem countStatement_eq (filter : Filter) :
    countStatement filter =
      ⟨"SELECT COUNT(*) FROM products WHERE " ++ (filter.render []).text,
        (filter.render []).values⟩ := rfl

/-- Nothing that a client writes is in the text of a statement. -/
theorem statements_fixed (parameters : Parameters) :
    let filter := Filter.ofParameters parameters
    let policy := Policy.ofParameters parameters
    ∃ condition order values, IsCondition condition ∧ IsOrder order ∧
      findStatement filter policy =
        ⟨"SELECT id, name, price, rating, company, featured, created_at FROM products WHERE " ++
          condition ++ " ORDER BY " ++ order ++ " LIMIT ? OFFSET ?",
          values ++ [.integer policy.limit.toNat, .integer (min policy.offset.toNat maxSkip)]⟩ ∧
      countStatement filter = ⟨"SELECT COUNT(*) FROM products WHERE " ++ condition, values⟩ ∧
      questionMarks condition = values.length ∧
      (∀ before predicate after, filter.predicates = before ++ predicate :: after →
        ∃ front back, condition = front ++ predicate.fragment ++ back ∧
          questionMarks front = (before.flatMap Predicate.bound).length ∧
          (values.drop (questionMarks front)).take (questionMarks predicate.fragment) =
            predicate.bound) ∧
      ∀ others : Parameters,
        List.Forall₂ SameShape filter.predicates (Filter.ofParameters others).predicates →
        policy.sort = (Policy.ofParameters others).sort →
        (findStatement filter policy).text =
            (findStatement (.ofParameters others) (.ofParameters others)).text ∧
          (countStatement filter).text = (countStatement (.ofParameters others)).text := by
  intro filter policy
  have ordered : IsOrder policy.renderOrder := isOrder_renderOrder (sort_nodup parameters)
  refine ⟨(filter.render []).text, policy.renderOrder, (filter.render []).values,
    isCondition_render parameters, ordered, ?_, ?_, filter.questionMarks_render, ?_, ?_⟩
  · exact findStatement_eq filter policy
  · exact countStatement_eq filter
  · intro before predicate after split
    exact Filter.render_split split
  · intro others shape sameSort
    have condition := render_text_congr shape
    have order := renderOrder_congr sameSort
    rw [findStatement_eq, findStatement_eq, countStatement_eq, countStatement_eq]
    exact ⟨by rw [condition, order], by rw [condition]⟩

theorem SameShape.refl (predicate : Predicate) : SameShape predicate predicate := by
  rcases predicate with ⟨field, value | text⟩ | needle | ⟨field, comparator, value⟩ <;> constructor

def searchFor (needle : String) : Parameters :=
  { name := some needle, sort := some "-price", numericFilters := some "price<100" }

theorem statements_fixed_hostile :
    let hostile := searchFor "x' OR 1=1; DROP TABLE products; --"
    let harmless := searchFor "lamp"
    (findStatement (.ofParameters hostile) (.ofParameters hostile)).text =
        (findStatement (.ofParameters harmless) (.ofParameters harmless)).text ∧
      (countStatement (.ofParameters hostile)).text =
        (countStatement (.ofParameters harmless)).text := by
  intro hostile harmless
  obtain ⟨_, _, _, _, _, _, _, _, _, others⟩ := statements_fixed hostile
  refine others harmless ?_ rfl
  have prices : List.Forall₂ SameShape (Filter.numericPredicates "price<100")
      (Filter.numericPredicates "price<100") :=
    List.forall₂_same.mpr fun predicate _ => SameShape.refl predicate
  exact List.Forall₂.cons SameShape.name prices

end ProductCatalog.Query
