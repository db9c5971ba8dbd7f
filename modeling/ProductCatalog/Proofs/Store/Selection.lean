import ProductCatalog.Store.Search

/-! Which products a filter selects, and when the store refuses to look for them. Both depend on the
entries of the table alone and not on their order. -/

namespace ProductCatalog.Store

open Query (Filter Predicate)

def isOverlong : Predicate → Bool
  | .nameContains needle => maxPatternSize < (Query.needlePattern needle).utf8ByteSize
  | .equals _ _ | .compares _ => false

/-- The condition holds of an entry, its pattern being of any length. -/
def holds (entry : Entry) : Predicate → Bool
  | .equals field value => equalsField entry.row field value
  | .nameContains needle =>
    Text.Like.isMatch (Query.needlePattern needle).toList entry.foldedName.toList
  | .compares comparison =>
    holdsBetween (numericValue entry.row comparison.field) comparison.comparator comparison.value

theorem meets_eq (entry : Entry) (predicate : Predicate) :
    meets entry predicate =
      if isOverlong predicate then .error (.ofRefusal .patternTooLong)
      else .ok (holds entry predicate) := by
  cases predicate with
  | equals field value => rfl
  | nameContains needle => simp [meets, isOverlong, holds]
  | compares comparison => rfl

def judge {α ε : Type} (bad good : α → Bool) (fault : ε) (item : α) : Except ε Bool :=
  if bad item then .error fault else .ok (good item)

/-- A pattern that is too long comes to be tested: all conditions before it hold. -/
def testsOverlong (entry : Entry) : List Predicate → Bool
  | [] => false
  | predicate :: rest => isOverlong predicate || holds entry predicate && testsOverlong entry rest

theorem testsOverlong_append (entry : Entry) (front back : List Predicate) :
    testsOverlong entry (front ++ back) =
      (testsOverlong entry front || front.all (holds entry) && testsOverlong entry back) := by
  induction front with
  | nil => simp [testsOverlong]
  | cons predicate rest ih =>
      simp only [List.cons_append, testsOverlong, ih, List.all_cons]
      cases isOverlong predicate <;> cases holds entry predicate <;> simp

theorem testsOverlong_short {predicates : List Predicate}
    (short : ∀ predicate ∈ predicates, isOverlong predicate = false) (entry : Entry) :
    testsOverlong entry predicates = false := by
  induction predicates with
  | nil => rfl
  | cons predicate rest ih =>
      have first := short predicate List.mem_cons_self
      have others := ih fun other member => short other (List.mem_cons_of_mem _ member)
      simp [testsOverlong, first, others]

theorem meetsAll_eq (entry : Entry) (predicates : List Predicate) :
    meetsAll entry predicates =
      judge (testsOverlong · predicates) (fun entry => predicates.all (holds entry))
        (Fault.ofRefusal .patternTooLong) entry := by
  unfold judge
  induction predicates with
  | nil => rfl
  | cons predicate rest ih =>
      simp only [meetsAll, meets_eq, testsOverlong, List.all_cons]
      by_cases overlong : isOverlong predicate = true
      · simp [overlong, bind, Except.bind]
      · by_cases met : holds entry predicate = true
        · simp [overlong, met, ih, bind, Except.bind]
        · simp [overlong, met, bind, Except.bind, pure, Except.pure]

theorem filterAuxM_judge {α ε : Type} (bad good : α → Bool) (fault : ε) (items chosen : List α) :
    items.filterAuxM (judge bad good fault) chosen =
      if items.any bad then .error fault
      else .ok ((items.filter good).reverse ++ chosen) := by
  induction items generalizing chosen with
  | nil => rfl
  | cons item rest ih =>
      simp only [List.filterAuxM, List.any_cons, List.filter_cons, judge]
      by_cases isBad : bad item = true
      · simp [isBad, bind, Except.bind]
      · by_cases isGood : good item = true
        · simp [isBad, isGood, ih, bind, Except.bind]
        · simp [isBad, isGood, ih, bind, Except.bind]

theorem filterM_judge {α ε : Type} (bad good : α → Bool) (fault : ε) (items : List α) :
    items.filterM (judge bad good fault) =
      if items.any bad then .error fault else .ok (items.filter good) := by
  rw [List.filterM, filterAuxM_judge]
  by_cases anyBad : items.any bad = true
  · simp [anyBad, bind, Except.bind]
  · simp [anyBad, bind, Except.bind, pure, Except.pure]

theorem filterM_meetsAll (entries : List Entry) (predicates : List Predicate) :
    (entries.filterM fun entry => meetsAll entry predicates) =
      if entries.any (testsOverlong · predicates) then .error (.ofRefusal .patternTooLong)
      else .ok (entries.filter fun entry => predicates.all (holds entry)) := by
  simp only [meetsAll_eq]
  exact filterM_judge _ _ _ entries

def Contents.isPlain : Contents → Bool
  | plain _ => true
  | folded _ => false

theorem entriesFor_eq (predicates : List Predicate) (contents : Contents) :
    contents.entriesFor predicates =
      if contents.isPlain && predicates.any needsFoldedName then .error (.ofRefusal .noFoldedName)
      else .ok contents.entries := by
  cases contents <;> rfl

/-- What the store has against a search. -/
def Database.objection? (database : Database) (filter : Filter) : Option Refusal :=
  if conditionLimit ≤ filter.predicates.length then some .tooManyConditions
  else
    match database.products with
    | none => some .noTable
    | some table =>
      if table.contents.isPlain && filter.predicates.any needsFoldedName then some .noFoldedName
      else if table.contents.entries.any (testsOverlong · filter.predicates) then
        some .patternTooLong
      else none

def Database.matching (database : Database) (filter : Filter) : List Entry :=
  database.entries.filter fun entry => filter.predicates.all (holds entry)

/-- A search is refused, or it selects exactly the matching products. -/
theorem select_eq (database : Database) (filter : Filter) :
    database.select filter =
      match database.objection? filter with
      | some refusal => .error (.ofRefusal refusal)
      | none => .ok ((database.matching filter).map (·.row)) := by
  obtain ⟨version, products⟩ := database
  simp only [Database.select, Database.objection?]
  by_cases many : conditionLimit ≤ filter.predicates.length
  · simp [many, bind, Except.bind, throw, throwThe, MonadExceptOf.throw]
  · cases products with
    | none => simp [many, throw, throwThe, MonadExceptOf.throw]
    | some table =>
        simp only [many, if_false, entriesFor_eq]
        by_cases nameless : table.contents.isPlain && filter.predicates.any needsFoldedName
        · simp [nameless, bind, Except.bind]
        · simp only [nameless, bind, Except.bind, filterM_meetsAll]
          by_cases overlong : table.contents.entries.any (testsOverlong · filter.predicates)
          · simp [overlong]
          · simp [overlong, Database.matching, Database.entries, pure, Except.pure]

theorem count_eq (database : Database) (filter : Filter) :
    database.count filter =
      match database.objection? filter with
      | some refusal => .error (.ofRefusal refusal)
      | none => .ok (database.matching filter).length := by
  rw [Database.count, select_eq]
  cases database.objection? filter <;> simp [Except.map]

theorem find_eq (database : Database) (filter : Filter) (policy : Query.Policy) :
    database.find filter policy =
      match database.objection? filter with
      | some refusal => .error (.ofRefusal refusal)
      | none => .ok (present policy ((database.matching filter).map (·.row))) := by
  rw [Database.find, select_eq]
  cases database.objection? filter <;> rfl

end ProductCatalog.Store
