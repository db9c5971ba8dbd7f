import ProductCatalog.Proofs.Query.Sorting
import ProductCatalog.Query.Statement

/-! Statements word by word. Words stand apart by blanks, and a comma is a word of its own. None of
the words comes from a client: they are keywords, columns, signs and question marks. -/

namespace ProductCatalog.Query

/-- A comma at the end of a word is a word of its own. -/
def splitComma (word : List Char) : List (List Char) :=
  if word.getLast? = some ',' then [word.dropLast, [',']] else [word]

def words (text : String) : List String :=
  ((text.toList.splitOn ' ').flatMap splitComma).map String.ofList

theorem words_append_blank (front back : String) :
    words (front ++ " " ++ back) = words front ++ words back := by
  have blank : (front ++ " " ++ back).toList = front.toList ++ ' ' :: back.toList := by simp
  rw [words, blank, List.splitOn_append_cons_self, List.flatMap_append, List.map_append]
  rfl

theorem words_append_end (front back : String) :
    words (front ++ (" " ++ back)) = words front ++ words back := by
  rw [← String.append_assoc, words_append_blank]

theorem words_append_phrase (front phrase back : String) :
    words (front ++ (" " ++ phrase ++ " ") ++ back) =
      words front ++ words phrase ++ words back := by
  rw [← String.append_assoc, words_append_blank, words_append_end]

theorem words_intercalate {separator : String} {between : List String} {texts : List String}
    (joined : ∀ front ∈ texts, ∀ back,
      words (front ++ separator ++ back) = words front ++ between ++ words back)
    (some_text : texts ≠ []) :
    words (separator.intercalate texts) = between.intercalate (texts.map words) := by
  induction texts with
  | nil => exact absurd rfl some_text
  | cons first rest ih =>
      cases rest with
      | nil => simp
      | cons second others =>
          have later := ih (fun front member => joined front (List.mem_cons_of_mem first member))
            (by simp)
          rw [String.intercalate_cons_cons, joined first List.mem_cons_self, later]
          simp only [List.map_cons, List.intercalate_cons_cons]

theorem not_mem_intercalate {word separator : String} {parts : List (List String)}
    (apart : word ≠ separator) (absent : ∀ part ∈ parts, word ∉ part) :
    word ∉ [separator].intercalate parts := by
  induction parts with
  | nil => simp
  | cons first rest ih =>
      obtain ⟨here, later⟩ := List.forall_mem_cons.mp absent
      cases rest with
      | nil => simpa using here
      | cons second others =>
          rw [List.intercalate_cons_cons, List.mem_append, List.mem_append, List.mem_singleton]
          rintro ((first | between) | others)
          · exact here first
          · exact apart between
          · exact ih later others

def Predicate.words : Predicate → List String
  | equals field (.flag true) => [field.column, "=", "TRUE"]
  | equals field (.flag false) => [field.column, "=", "FALSE"]
  | equals field (.text _) => [field.column, "=", "?"]
  | nameContains _ => [foldedNameColumn, "LIKE", "?", "ESCAPE", "'\\'"]
  | compares comparison => [comparison.field.field.column, comparison.comparator.symbol, "?"]

def Predicate.bound : Predicate → List BoundValue
  | equals _ (.flag _) => []
  | equals _ (.text text) => [.text text]
  | nameContains needle => [.text (needlePattern needle)]
  | compares comparison => [.real comparison.value]

theorem Predicate.render_values (predicate : Predicate) (values : List BoundValue) :
    (predicate.render values).values = values ++ predicate.bound := by
  rcases predicate with ⟨field, ⟨_ | _⟩ | text⟩ | needle | comparison <;>
    simp [Predicate.render, Predicate.bound]

theorem Predicate.words_render (predicate : Predicate) (values : List BoundValue) :
    Query.words (predicate.render values).text = predicate.words := by
  rcases predicate with ⟨field, ⟨_ | _⟩ | text⟩ | needle | ⟨field, comparator, value⟩
  · change Query.words (field.column ++ " = FALSE") = [field.column, "=", "FALSE"]
    cases field <;> rfl
  · change Query.words (field.column ++ " = TRUE") = [field.column, "=", "TRUE"]
    cases field <;> rfl
  · change Query.words (field.column ++ " = ?") = [field.column, "=", "?"]
    cases field <;> rfl
  · change Query.words (foldedNameColumn ++ " LIKE ? ESCAPE '\\'") =
      [foldedNameColumn, "LIKE", "?", "ESCAPE", "'\\'"]
    rfl
  · change Query.words (field.field.column ++ " " ++ comparator.symbol ++ " ?") =
      [field.field.column, comparator.symbol, "?"]
    cases field <;> cases comparator <;> rfl

theorem Predicate.keyword_not_mem_words (predicate : Predicate) :
    ∀ keyword ∈ ["AND", "ORDER"], keyword ∉ predicate.words := by
  rcases predicate with ⟨field, ⟨_ | _⟩ | text⟩ | needle | ⟨field, comparator, value⟩
  · cases field <;> decide
  · cases field <;> decide
  · change ∀ keyword ∈ ["AND", "ORDER"], keyword ∉ [field.column, "=", "?"]
    cases field <;> decide
  · change ∀ keyword ∈ ["AND", "ORDER"], keyword ∉ [foldedNameColumn, "LIKE", "?", "ESCAPE", "'\\'"]
    decide
  · change ∀ keyword ∈ ["AND", "ORDER"], keyword ∉ [field.field.column, comparator.symbol, "?"]
    cases field <;> cases comparator <;> decide

theorem renderEach_eq (values : List BoundValue) (predicates : List Predicate) :
    renderEach values predicates =
      (predicates.map fun predicate => (predicate.render []).text,
        values ++ predicates.flatMap Predicate.bound) := by
  induction predicates generalizing values with
  | nil => simp [renderEach]
  | cons predicate rest ih =>
      have text : (predicate.render values).text = (predicate.render []).text := by
        rcases predicate with ⟨field, ⟨_ | _⟩ | text⟩ | needle | comparison <;> rfl
      simp only [renderEach, ih, predicate.render_values, text, List.map_cons, List.flatMap_cons,
        List.append_assoc]

def Filter.words (filter : Filter) : List String :=
  if filter.predicates = [] then ["1=1"]
  else ["AND"].intercalate (filter.predicates.map Predicate.words)

theorem Filter.render_values (filter : Filter) (values : List BoundValue) :
    (filter.render values).values = values ++ filter.predicates.flatMap Predicate.bound := by
  unfold Filter.render
  split
  · rename_i empty
    simp [empty]
  · rw [renderEach_eq]

theorem Filter.words_render (filter : Filter) (values : List BoundValue) :
    Query.words (filter.render values).text = filter.words := by
  unfold Filter.render Filter.words
  split
  · change Query.words "1=1" = ["1=1"]
    rfl
  · rename_i some_predicate
    rw [renderEach_eq]
    have joined : ∀ front ∈ filter.predicates.map fun predicate => (predicate.render []).text,
        ∀ back, Query.words (front ++ " AND " ++ back) =
          Query.words front ++ ["AND"] ++ Query.words back := by
      intro front _ back
      exact words_append_phrase front "AND" back
    rw [words_intercalate joined (by simpa using some_predicate), List.map_map]
    congr 1
    apply List.map_congr_left
    intro predicate _
    exact predicate.words_render []

theorem Filter.splitOn_words (filter : Filter) :
    filter.words.splitOn "AND" =
      if filter.predicates = [] then [["1=1"]] else filter.predicates.map Predicate.words := by
  unfold Filter.words
  split
  · rfl
  · rename_i some_predicate
    apply List.splitOn_intercalate
    · intro part member
      obtain ⟨predicate, _, rfl⟩ := List.mem_map.mp member
      exact predicate.keyword_not_mem_words "AND" (by decide)
    · simpa using some_predicate

theorem Filter.order_not_mem_words (filter : Filter) : "ORDER" ∉ filter.words := by
  unfold Filter.words
  split
  · decide
  · apply not_mem_intercalate (by decide)
    intro part member
    obtain ⟨predicate, _, rfl⟩ := List.mem_map.mp member
    exact predicate.keyword_not_mem_words "ORDER" (by decide)

def SortKey.words (key : SortKey) : List String :=
  match key.direction with
  | .ascending => [key.field.column, "ASC"]
  | .descending => [key.field.column, "DESC"]

theorem SortKey.words_render (key : SortKey) : Query.words key.render = key.words := by
  obtain ⟨field, direction⟩ := key
  cases direction <;> cases field <;> rfl

theorem SortKey.words_render_comma (key : SortKey) :
    Query.words (key.render ++ ",") = key.words ++ [","] := by
  obtain ⟨field, direction⟩ := key
  cases direction <;> cases field <;> rfl

theorem SortKey.sign_not_mem_words (key : SortKey) :
    ∀ sign ∈ [",", "LIMIT"], sign ∉ key.words := by
  obtain ⟨field, direction⟩ := key
  cases direction <;> cases field <;> decide

theorem orderKeys_ne_nil (policy : Policy) : policy.orderKeys ≠ [] := by
  have member := id_mem_orderKeys policy
  intro empty
  simp [sortFields, empty] at member

def Policy.orderWords (policy : Policy) : List String :=
  [","].intercalate (policy.orderKeys.map SortKey.words)

theorem Policy.words_renderOrder (policy : Policy) :
    Query.words policy.renderOrder = policy.orderWords := by
  have joined : ∀ front ∈ policy.orderKeys.map SortKey.render, ∀ back,
      Query.words (front ++ ", " ++ back) = Query.words front ++ [","] ++ Query.words back := by
    intro front member back
    obtain ⟨key, _, rfl⟩ := List.mem_map.mp member
    have blank : key.render ++ ", " ++ back = key.render ++ "," ++ " " ++ back := by
      simp only [String.append_assoc]
      rfl
    rw [blank, words_append_blank, key.words_render_comma, key.words_render]
  unfold Policy.renderOrder Policy.orderWords
  rw [words_intercalate joined (by simpa using orderKeys_ne_nil policy), List.map_map]
  congr 1
  apply List.map_congr_left
  intro key _
  exact key.words_render

theorem Policy.limit_not_mem_orderWords (policy : Policy) : "LIMIT" ∉ policy.orderWords := by
  apply not_mem_intercalate (by decide)
  intro part member
  obtain ⟨key, _, rfl⟩ := List.mem_map.mp member
  exact key.sign_not_mem_words "LIMIT" (by decide)

/-- What statements that find products and that count them begin with, before their condition. -/
def findStart : String :=
  "SELECT id, name, price, rating, company, featured, created_at FROM products"

def countStart : String :=
  "SELECT COUNT(*) FROM products"

theorem words_findStatement (filter : Filter) (policy : Policy) :
    words (findStatement filter policy).text =
      words findStart ++ "WHERE" :: (filter.words ++ "ORDER" :: ("BY" :: policy.orderWords ++
        "LIMIT" :: ["?", "OFFSET", "?"])) := by
  have phrases : (findStatement filter policy).text =
      findStart ++ (" " ++ "WHERE" ++ " ") ++ (filter.render []).text ++
        (" " ++ "ORDER BY" ++ " ") ++ policy.renderOrder ++ (" " ++ "LIMIT ? OFFSET ?") := rfl
  have first : words "WHERE" = ["WHERE"] := rfl
  have order : words "ORDER BY" = ["ORDER", "BY"] := rfl
  have last : words "LIMIT ? OFFSET ?" = ["LIMIT", "?", "OFFSET", "?"] := rfl
  rw [phrases, words_append_end, words_append_phrase, words_append_phrase, filter.words_render,
    policy.words_renderOrder, first, order, last]
  simp only [List.append_assoc, List.cons_append, List.nil_append]

theorem words_countStatement (filter : Filter) :
    words (countStatement filter).text = words countStart ++ "WHERE" :: filter.words := by
  have phrases : (countStatement filter).text =
      countStart ++ (" " ++ "WHERE" ++ " ") ++ (filter.render []).text := rfl
  have first : words "WHERE" = ["WHERE"] := rfl
  rw [phrases, words_append_phrase, filter.words_render, first, List.append_assoc,
    List.singleton_append]

end ProductCatalog.Query
