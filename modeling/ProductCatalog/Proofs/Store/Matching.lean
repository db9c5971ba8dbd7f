import ProductCatalog.Proofs.Query.Clauses
import ProductCatalog.Proofs.Store.History
import ProductCatalog.Proofs.Store.Selection
import ProductCatalog.Proofs.Text.Like
import ProductCatalog.Proofs.Text.Lowercase

/-! Which products pass the filter that is made from a client's parameters. Each parameter that is
given adds its own condition; a name is looked for in lowercase. -/

namespace ProductCatalog.Store

open Query (Comparator Comparison Filter Parameters Predicate)
open Text.Like (ToldApart asRead letter visible)

/-- The comparison of two numbers by their places among all numbers. -/
def Compares (left : Float) : Comparator → Float → Prop
  | .equal, right => Decimal.rank left = Decimal.rank right
  | .greater, right => Decimal.rank right < Decimal.rank left
  | .less, right => Decimal.rank left < Decimal.rank right
  | .greaterOrEqual, right => Decimal.rank right ≤ Decimal.rank left
  | .lessOrEqual, right => Decimal.rank left ≤ Decimal.rank right

/-- The needle occurs in the name, both of them in lowercase. -/
def Contains (needle name : String) : Prop :=
  Text.lowercase needle.toList <:+: (foldName name).toList

/-- What the engine finds by a needle. It looks at a name up to the first U+0000 only, and of a
needle with U+0000 in it at the part before that, which has to stand at the end. Needle and name are
compared as they are read. -/
def Finds (needle name : String) : Prop :=
  let shown := (visible (foldName name).toList).map asRead
  if '\u0000' ∈ needle.toList then (visible (Text.lowercase needle.toList)).map asRead <:+ shown
  else (Text.lowercase needle.toList).map asRead <:+: shown

theorem map_letter_of_subset {part text : List Char} (within : part ⊆ Text.lowercase text) :
    part.map letter = part.map asRead := by
  apply List.map_congr_left
  intro c member
  rw [letter]
  rcases Text.Like.asRead_cases c with plain | ⟨_, replaced⟩
  · rw [plain, Text.toLower_of_mem_lowercase (within member)]
  · rw [replaced]
    decide

theorem isMatch_needlePattern (needle name : String) :
    Text.Like.isMatch (Query.needlePattern needle).toList (foldName name).toList = true ↔
      Finds needle name := by
  have shown (text : List Char) : (visible (Text.lowercase text)).map letter =
      (visible (Text.lowercase text)).map asRead :=
    map_letter_of_subset (List.takeWhile_prefix _).subset
  have whole (text : List Char) : (Text.lowercase text).map letter =
      (Text.lowercase text).map asRead :=
    map_letter_of_subset (List.Subset.refl _)
  simp only [Query.needlePattern, foldName, Finds, String.toList_ofList,
    Text.Like.isMatch_containing, Text.zero_mem_lowercase_iff, shown, whole]

theorem zero_not_mem_foldName {name : String} (plain : '\u0000' ∉ name.toList) :
    '\u0000' ∉ (foldName name).toList := by
  rwa [foldName, String.toList_ofList, Text.zero_mem_lowercase_iff]

theorem finds_iff_occurs {needle name : String} (plainNeedle : '\u0000' ∉ needle.toList)
    (plainName : '\u0000' ∉ (foldName name).toList) :
    Finds needle name ↔
      (Text.lowercase needle.toList).map asRead <:+: (foldName name).toList.map asRead := by
  rw [Finds, if_neg plainNeedle, Text.Like.visible_of_not_mem plainName]

theorem Contains.finds {needle name : String} (contains : Contains needle name)
    (plainNeedle : '\u0000' ∉ needle.toList) (plainName : '\u0000' ∉ name.toList) :
    Finds needle name :=
  (finds_iff_occurs plainNeedle (zero_not_mem_foldName plainName)).mpr (contains.map asRead)

theorem isSpecial_of_mem_lookalikes {c : Char} (member : c ∈ Text.Like.lookalikes) :
    Text.IsSpecial c := by
  simp only [Text.Like.lookalikes, List.mem_cons, List.not_mem_nil, or_false] at member
  rcases member with rfl | rfl | rfl
  all_goals exact ⟨by decide, by decide⟩

theorem toldApart_foldName {needle name : String} (apart : ToldApart needle.toList name.toList) :
    ToldApart (Text.lowercase needle.toList) (foldName name).toList := by
  rw [foldName, String.toList_ofList]
  intro c among d there same
  by_contra different
  obtain ⟨first, second⟩ := Text.Like.mem_lookalikes_of_asRead same different
  have inNeedle := Text.mem_of_mem_lowercase (isSpecial_of_mem_lookalikes first) among
  have inName := Text.mem_of_mem_lowercase (isSpecial_of_mem_lookalikes second) there
  exact different (apart c inNeedle d inName same)

/-- The engine reads both to their ends, and tells the characters of the needle from those of the
name. -/
structure Legible (needle name : String) : Prop where
  wholeNeedle : '\u0000' ∉ needle.toList
  wholeName : '\u0000' ∉ name.toList
  apart : ToldApart needle.toList name.toList

/-- Where all is legible there is no difference between what is asked for and what is found. -/
theorem Legible.finds_iff_contains {needle name : String} (legible : Legible needle name) :
    Finds needle name ↔ Contains needle name := by
  have apart := toldApart_foldName legible.apart
  rw [finds_iff_occurs legible.wholeNeedle (zero_not_mem_foldName legible.wholeName),
    apart.map_infix_iff, Contains]

/-- What the parameters ask of a product, when `found` says which names a needle finds. -/
structure Wanted (found : String → String → Prop) (parameters : Parameters) (row : Row) :
    Prop where
  featured : ∀ value, parameters.featured = some value → value ≠ "" →
    row.featured = decide (value = "true")
  company : ∀ value, parameters.company = some value → value ≠ "" → row.company = value
  name : ∀ value, parameters.name = some value → value ≠ "" → found value row.name
  comparisons : ∀ value, parameters.numericFilters = some value → value ≠ "" →
    ∀ comparison ∈ Query.comparisons value.toList,
      Compares (numericValue row comparison.field) comparison.comparator comparison.value

theorem Wanted.mono {found other : String → String → Prop} {parameters : Parameters} {row : Row}
    (wanted : Wanted found parameters row)
    (weaker : ∀ needle, parameters.name = some needle → found needle row.name →
      other needle row.name) : Wanted other parameters row := by
  refine ⟨wanted.featured, wanted.company, ?_, wanted.comparisons⟩
  intro needle given some_text
  exact weaker needle given (wanted.name needle given some_text)

theorem all_asked (parameter : Option String) (conditions : String → List Predicate)
    (test : Predicate → Bool) :
    (((Query.present parameter).map conditions).getD []).all test = true ↔
      ∀ value, parameter = some value → value ≠ "" → (conditions value).all test = true := by
  cases parameter with
  | none => simp [Query.present]
  | some text =>
      rw [Query.present, Option.filter_some]
      by_cases empty : text = ""
      · simp [empty]
      · simp [empty]

end ProductCatalog.Store
