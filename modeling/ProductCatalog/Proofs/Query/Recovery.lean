import ProductCatalog.Proofs.Query.Rendering
import ProductCatalog.Proofs.Text.Like

/-! What a rendered filter says. The conditions can be told from the text and the values beside it,
but for the case of the letters in a needle. -/

namespace ProductCatalog.Query

variable {same : Float → Float → Prop}

/-- Values that agree, numbers in what `same` says. -/
inductive SameValue (same : Float → Float → Prop) : BoundValue → BoundValue → Prop
  | text {value} : SameValue same (.text value) (.text value)
  | real {left right} : same left right → SameValue same (.real left) (.real right)
  | integer {value} : SameValue same (.integer value) (.integer value)

/-- Conditions that agree, needles in their lowercase and numbers in what `same` says. -/
inductive SameCondition (same : Float → Float → Prop) : Predicate → Predicate → Prop
  | equals {field value} : SameCondition same (.equals field value) (.equals field value)
  | nameContains {left right : String} :
      Text.lowercase left.toList = Text.lowercase right.toList →
      SameCondition same (.nameContains left) (.nameContains right)
  | compares {field comparator left right} : same left right →
      SameCondition same (.compares ⟨field, comparator, left⟩)
        (.compares ⟨field, comparator, right⟩)

theorem symbol_injective : Function.Injective Comparator.symbol := by
  intro left right equal
  cases left <;> cases right <;> first | rfl | exact absurd equal (by decide)

theorem numericField_injective : Function.Injective NumericField.field := by
  intro left right equal
  cases left <;> cases right <;> first | rfl | exact absurd equal (by decide)

theorem lowercase_of_needlePattern {left right : String}
    (equal : needlePattern left = needlePattern right) :
    Text.lowercase left.toList = Text.lowercase right.toList :=
  Text.Like.containing_injective (String.ofList_injective equal)

theorem Predicate.of_bound_nil {predicate : Predicate} (bound : predicate.bound = []) :
    ∃ field value, predicate = .equals field (.flag value) := by
  rcases predicate with ⟨field, value | text⟩ | needle | comparison
  · exact ⟨field, value, rfl⟩
  all_goals simp [Predicate.bound] at bound

theorem Predicate.of_bound_text {predicate : Predicate} {text : String}
    (bound : predicate.bound = [.text text]) :
    (∃ field, predicate = .equals field (.text text)) ∨
      ∃ needle, predicate = .nameContains needle ∧ needlePattern needle = text := by
  rcases predicate with ⟨field, value | wanted⟩ | needle | comparison
  · simp [Predicate.bound] at bound
  · left
    exact ⟨field, by simpa [Predicate.bound] using bound⟩
  · right
    exact ⟨needle, rfl, by simpa [Predicate.bound] using bound⟩
  · simp [Predicate.bound] at bound

theorem Predicate.of_bound_real {predicate : Predicate} {value : Float}
    (bound : predicate.bound = [.real value]) :
    ∃ field comparator, predicate = .compares ⟨field, comparator, value⟩ := by
  rcases predicate with ⟨field, flag | text⟩ | needle | ⟨field, comparator, number⟩
  · simp [Predicate.bound] at bound
  · simp [Predicate.bound] at bound
  · simp [Predicate.bound] at bound
  · refine ⟨field, comparator, ?_⟩
    have equal : number = value := by simpa [Predicate.bound] using bound
    rw [equal]

theorem eq_of_agree_text {text : String} {values : List BoundValue}
    (agree : List.Forall₂ (SameValue same) [.text text] values) : values = [.text text] := by
  obtain ⟨_, _, first, rest, rfl⟩ := List.forall₂_cons_left_iff.mp agree
  rw [List.forall₂_nil_left_iff.mp rest]
  cases first
  rfl

theorem real_of_agree {value : Float} {values : List BoundValue}
    (agree : List.Forall₂ (SameValue same) [.real value] values) :
    ∃ other, values = [.real other] ∧ same value other := by
  obtain ⟨_, _, first, rest, rfl⟩ := List.forall₂_cons_left_iff.mp agree
  rw [List.forall₂_nil_left_iff.mp rest]
  cases first with
  | real equal => exact ⟨_, rfl, equal⟩

/-- The value beside a condition tells `price = ?` with a text from `price = ?` with a number. -/
theorem SameCondition.of_words {left right : Predicate} (words : left.words = right.words)
    (agree : List.Forall₂ (SameValue same) left.bound right.bound) :
    SameCondition same left right := by
  rcases left with ⟨field, value | text⟩ | needle | ⟨field, comparator, value⟩
  · obtain ⟨other, wanted, rfl⟩ := Predicate.of_bound_nil (List.forall₂_nil_left_iff.mp agree)
    have equal : field = other ∧ value = wanted := by
      cases value <;> cases wanted <;> simp_all [Predicate.words, column_injective.eq_iff]
    rw [equal.1, equal.2]
    exact .equals
  · rcases Predicate.of_bound_text (eq_of_agree_text agree) with ⟨other, rfl⟩ | ⟨needle, rfl, _⟩
    · have equal : field = other := by
        simpa [Predicate.words, column_injective.eq_iff] using words
      rw [equal]
      exact .equals
    · simp [Predicate.words] at words
  · rcases Predicate.of_bound_text (eq_of_agree_text agree) with ⟨other, rfl⟩ | ⟨other, rfl, equal⟩
    · simp [Predicate.words] at words
    · exact .nameContains (lowercase_of_needlePattern equal.symm)
  · obtain ⟨other, real, equal⟩ := real_of_agree agree
    obtain ⟨otherField, sign, rfl⟩ := Predicate.of_bound_real real
    have signs : field = otherField ∧ comparator = sign := by
      simpa [Predicate.words, column_injective.eq_iff, numericField_injective.eq_iff,
        symbol_injective.eq_iff] using words
    rw [signs.1, signs.2]
    exact .compares equal

theorem Predicate.length_bound (predicate : Predicate) :
    predicate.bound.length = predicate.words.count "?" := by
  rcases predicate with ⟨field, ⟨_ | _⟩ | text⟩ | needle | ⟨field, comparator, value⟩
  · cases field <;> rfl
  · cases field <;> rfl
  · cases field <;> rfl
  · rfl
  · cases field <;> cases comparator <;> rfl

theorem sameConditions_of_words {left right : List Predicate}
    (words : left.map Predicate.words = right.map Predicate.words)
    (agree : List.Forall₂ (SameValue same) (left.flatMap Predicate.bound)
      (right.flatMap Predicate.bound)) :
    List.Forall₂ (SameCondition same) left right := by
  induction left generalizing right with
  | nil =>
      rw [List.map_eq_nil_iff.mp words.symm]
      exact .nil
  | cons first rest ih =>
      cases right with
      | nil => simp at words
      | cons second others =>
          obtain ⟨firstWords, restWords⟩ := List.cons.inj words
          have length : first.bound.length = second.bound.length := by
            rw [first.length_bound, second.length_bound, firstWords]
          rw [List.flatMap_cons, List.flatMap_cons] at agree
          have taken := List.forall₂_take first.bound.length agree
          have dropped := List.forall₂_drop first.bound.length agree
          rw [List.take_left, List.take_left' length.symm] at taken
          rw [List.drop_left, List.drop_left' length.symm] at dropped
          exact .cons (.of_words firstWords taken) (ih restWords dropped)

theorem Predicate.words_ne (predicate : Predicate) : predicate.words ≠ ["1=1"] := by
  rcases predicate with ⟨field, ⟨_ | _⟩ | text⟩ | needle | comparison <;> simp [Predicate.words]

theorem map_words_ne (predicates : List Predicate) :
    predicates.map Predicate.words ≠ [["1=1"]] := by
  intro equal
  obtain ⟨predicate, rest, rfl, first, _⟩ := List.map_eq_cons_iff.mp equal
  exact predicate.words_ne first

theorem map_words_of_text {left right : Filter}
    (text : (left.render []).text = (right.render []).text) :
    left.predicates.map Predicate.words = right.predicates.map Predicate.words := by
  have words : left.words = right.words := by
    rw [← left.words_render [], ← right.words_render [], text]
  have split := congrArg (List.splitOn "AND") words
  rw [left.splitOn_words, right.splitOn_words] at split
  by_cases leftEmpty : left.predicates = []
  · by_cases rightEmpty : right.predicates = []
    · rw [leftEmpty, rightEmpty]
    · rw [if_pos leftEmpty, if_neg rightEmpty] at split
      exact absurd split.symm (map_words_ne _)
  · by_cases rightEmpty : right.predicates = []
    · rw [if_neg leftEmpty, if_pos rightEmpty] at split
      exact absurd split (map_words_ne _)
    · rwa [if_neg leftEmpty, if_neg rightEmpty] at split

theorem SameCondition.shape {left right : Predicate} (agree : SameCondition same left right) :
    SameShape left right := by
  cases agree with
  | @equals field value => exact SameShape.refl (.equals field value)
  | nameContains _ => exact .name
  | compares _ => exact .number

theorem SameCondition.bound {left right : Predicate} (agree : SameCondition same left right) :
    List.Forall₂ (SameValue same) left.bound right.bound := by
  cases agree with
  | @equals field value =>
      cases value with
      | flag value => exact .nil
      | text text => exact .cons .text .nil
  | nameContains equal =>
      simp only [Predicate.bound, needlePattern, equal]
      exact .cons .text .nil
  | compares equal => exact .cons (.real equal) .nil

theorem render_agrees_iff (left right : Filter) (same : Float → Float → Prop) :
    (left.render []).text = (right.render []).text ∧
        List.Forall₂ (SameValue same) (left.render []).values (right.render []).values ↔
      List.Forall₂ (SameCondition same) left.predicates right.predicates := by
  rw [left.render_values_nil, right.render_values_nil]
  constructor
  · rintro ⟨text, values⟩
    exact sameConditions_of_words (map_words_of_text text) values
  · intro agree
    constructor
    · exact render_text_congr (agree.imp fun _ _ => SameCondition.shape)
    · exact List.rel_flatMap agree fun _ _ => SameCondition.bound

theorem toBits_injective : Function.Injective Float.toBits := by
  rintro ⟨⟨left, _⟩⟩ ⟨⟨right, _⟩⟩ (rfl : left = right)
  rfl

theorem sameValue_toBits : SameValue (fun left right => left.toBits = right.toBits) = Eq := by
  funext left right
  apply propext
  constructor
  · rintro (_ | equal | _)
    · rfl
    · rw [toBits_injective equal]
    · rfl
  · rintro rfl
    cases left with
    | text value => exact .text
    | real value => exact .real rfl
    | integer value => exact .integer

theorem Filter.render_append (filter : Filter) (values : List BoundValue) :
    filter.render values = ⟨(filter.render []).text, values ++ (filter.render []).values⟩ := by
  have text : (filter.render values).text = (filter.render []).text := by
    unfold Filter.render
    split
    · rfl
    · simp only [renderEach_eq]
  rw [filter.render_values_nil, ← filter.render_values, ← text]

/-- A filter is determined by its text and its values, up to the case of letters in its needles;
only the filter without conditions is rendered as that. Values that were there before stay in
front, and the text does not depend on them. -/
theorem render_determines (left right : Filter) :
    (∀ same : Float → Float → Prop,
      (left.render []).text = (right.render []).text ∧
          List.Forall₂ (SameValue same) (left.render []).values (right.render []).values ↔
        List.Forall₂ (SameCondition same) left.predicates right.predicates) ∧
    (left.render [] = right.render [] ↔
      List.Forall₂ (SameCondition fun left right => left.toBits = right.toBits)
        left.predicates right.predicates) ∧
    ((left.render []).text = "1=1" ↔ left.predicates = []) ∧
    ∀ values : List BoundValue,
      left.render values = ⟨(left.render []).text, values ++ (left.render []).values⟩ := by
  refine ⟨render_agrees_iff left right, ?_, ?_, left.render_append⟩
  · rw [← render_agrees_iff, sameValue_toBits, List.forall₂_eq_eq_eq, ← Statement.mk.injEq]
  · constructor
    · intro text
      have words := @map_words_of_text left {} text
      exact List.map_eq_nil_iff.mp words
    · intro empty
      rw [Filter.render, if_pos empty]

end ProductCatalog.Query
