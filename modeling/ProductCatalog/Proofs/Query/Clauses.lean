import Mathlib.Data.List.DropRight
import ProductCatalog.Proofs.Decimal.Numeral
import ProductCatalog.Proofs.Query.Filters
import ProductCatalog.Proofs.Query.Tokens

/-! What the clauses of a text are, each read on its own from the piece of the text that stands
between two commas. -/

namespace ProductCatalog.Query

structure IsSide (text : List Char) : Prop where
  some_character : text ≠ []
  free : ∀ c ∈ text, c ≠ '<' ∧ c ≠ '>' ∧ c ≠ '='

/-- The piece is one comparator with a text on either side. -/
structure Splits (piece front : List Char) (sign : Comparator) (back : List Char) : Prop where
  whole : piece = front ++ sign.symbol.toList ++ back
  front : IsSide front
  back : IsSide back

/-- What a piece is read as. Blanks around the name of a field and around a number do not count. -/
inductive Reads (piece : List Char) : Except ClauseFault Comparison → Prop
  | comparison {front sign back field value} : Splits piece front sign back →
      String.ofList (Text.trim front) = field.field.label →
      Decimal.Spells (Text.trim back) value → Reads piece (.ok ⟨field, sign, value⟩)
  | invalidNumber {front sign back} {field : NumericField} : Splits piece front sign back →
      String.ofList (Text.trim front) = field.field.label →
      (∀ value, ¬Decimal.Spells (Text.trim back) value) →
      Reads piece (.error (.invalidNumber field.field.label (String.ofList (Text.trim back))))
  | unknownField {front sign back} : Splits piece front sign back →
      (∀ field : NumericField, String.ofList (Text.trim front) ≠ field.field.label) →
      Reads piece (.error (.unknownField (String.ofList (Text.trim front))))
  | malformed : (∀ front sign back, ¬Splits piece front sign back) →
      Reads piece (.error (.malformed (String.ofList piece)))

theorem isPlain_of_isSide {text : List Char} (side : IsSide text) (no_comma : ',' ∉ text) :
    IsPlain text := by
  refine ⟨side.some_character, ?_⟩
  intro c member
  obtain ⟨less, greater, equal⟩ := side.free c member
  have comma : c ≠ ',' := fun same => no_comma (same ▸ member)
  simp [isMark, less, greater, equal, comma]

theorem isSide_of_isPlain {text : List Char} (plain : IsPlain text) : IsSide text := by
  refine ⟨plain.some_character, ?_⟩
  intro c member
  have unmarked := plain.free c member
  simp only [isMark, Bool.or_eq_false_iff, beq_eq_false_iff_ne] at unmarked
  exact ⟨unmarked.1.1.2, unmarked.1.2, unmarked.2⟩

theorem toChars_clause (front : List Char) (sign : Comparator) (back : List Char) :
    Token.toChars [.text front, .comparator sign, .text back] =
      front ++ sign.symbol.toList ++ back := by
  simp [Token.toChars, Token.characters]

/-- A piece has three tokens exactly when it can be split. -/
theorem ofChars_eq_clause_iff {piece : List Char} (no_comma : ',' ∉ piece) (front : List Char)
    (sign : Comparator) (back : List Char) :
    Token.ofChars piece = [.text front, .comparator sign, .text back] ↔
      Splits piece front sign back := by
  rw [Token.ofChars_eq_iff, toChars_clause]
  constructor
  · rintro ⟨whole, separate⟩
    have frontPlain : IsPlain front := separate.proper (.text front) (by simp)
    have backPlain : IsPlain back := separate.proper (.text back) (by simp)
    exact ⟨whole.symm, isSide_of_isPlain frontPlain, isSide_of_isPlain backPlain⟩
  · rintro ⟨whole, frontSide, backSide⟩
    have frontPlain : IsPlain front :=
      isPlain_of_isSide frontSide fun member => no_comma (by simp [whole, member])
    have backPlain : IsPlain back :=
      isPlain_of_isSide backSide fun member => no_comma (by simp [whole, member])
    refine ⟨whole.symm, ?_⟩
    refine Token.separate_cons.mpr ⟨frontPlain, by simp [Token.StaysApart], ?_⟩
    refine Token.separate_cons.mpr ⟨trivial, by cases sign <;> simp [Token.StaysApart], ?_⟩
    exact Token.separate_cons.mpr ⟨backPlain, by simp, Token.separate_nil⟩

theorem ofLabel_eq_some_iff (label : String) (field : NumericField) :
    NumericField.ofLabel? label = some field ↔ label = field.field.label := by
  constructor
  · intro found
    have named := List.find?_some found
    exact (of_decide_eq_true named).symm
  · rintro rfl
    cases field <;> rfl

theorem ofLabel_eq_none_iff (label : String) :
    NumericField.ofLabel? label = none ↔ ∀ field : NumericField, label ≠ field.field.label := by
  simp only [Option.eq_none_iff_forall_ne_some, ne_eq, ofLabel_eq_some_iff]

theorem readFinite_eq_some_iff (text : List Char) (value : Float) :
    readFinite? text = some value ↔ Decimal.Spells text value := by
  rw [readFinite?, Option.filter_eq_some_iff, Decimal.read_finite_iff]

theorem readFinite_eq_none_iff (text : List Char) :
    readFinite? text = none ↔ ∀ value, ¬Decimal.Spells text value := by
  simp only [Option.eq_none_iff_forall_ne_some, ne_eq, readFinite_eq_some_iff]

theorem ofTokens_clause (front : List Char) (sign : Comparator) (back : List Char) :
    Comparison.ofTokens [.text front, .comparator sign, .text back] =
      match NumericField.ofLabel? (String.ofList (Text.trim front)) with
      | none => .error (.unknownField (String.ofList (Text.trim front)))
      | some field =>
        match readFinite? (Text.trim back) with
        | none => .error (.invalidNumber (String.ofList (Text.trim front))
            (String.ofList (Text.trim back)))
        | some value => .ok ⟨field, sign, value⟩ := rfl

theorem ofTokens_malformed {tokens : List Token}
    (other : ∀ front sign back, tokens ≠ [.text front, .comparator sign, .text back]) :
    Comparison.ofTokens tokens = .error (.malformed (String.ofList (Token.toChars tokens))) := by
  unfold Comparison.ofTokens
  split
  · rename_i front sign back
    exact absurd rfl (other front sign back)
  · rfl

theorem reads_ofTokens {piece : List Char} (no_comma : ',' ∉ piece) :
    Reads piece (Comparison.ofTokens (Token.ofChars piece)) := by
  by_cases clause : ∃ front sign back, Splits piece front sign back
  · obtain ⟨front, sign, back, splits⟩ := clause
    rw [(ofChars_eq_clause_iff no_comma front sign back).mpr splits, ofTokens_clause]
    cases named : NumericField.ofLabel? (String.ofList (Text.trim front)) with
    | none => exact Reads.unknownField splits ((ofLabel_eq_none_iff _).mp named)
    | some field =>
        have label := (ofLabel_eq_some_iff _ field).mp named
        cases found : readFinite? (Text.trim back) with
        | some value => exact Reads.comparison splits label ((readFinite_eq_some_iff _ _).mp found)
        | none =>
            simp only [label]
            exact Reads.invalidNumber splits label ((readFinite_eq_none_iff _).mp found)
  · have none_splits : ∀ front sign back, ¬Splits piece front sign back :=
      fun front sign back splits => clause ⟨front, sign, back, splits⟩
    rw [ofTokens_malformed, Token.toChars_ofChars]
    · exact Reads.malformed none_splits
    · intro front sign back tokens
      exact none_splits front sign back ((ofChars_eq_clause_iff no_comma _ _ _).mp tokens)

theorem ofTokens_of_reads {piece : List Char} (no_comma : ',' ∉ piece)
    {outcome : Except ClauseFault Comparison} (reads : Reads piece outcome) :
    Comparison.ofTokens (Token.ofChars piece) = outcome := by
  cases reads with
  | comparison splits label spelled =>
      rw [(ofChars_eq_clause_iff no_comma _ _ _).mpr splits, ofTokens_clause,
        (ofLabel_eq_some_iff _ _).mpr label, (readFinite_eq_some_iff _ _).mpr spelled]
  | invalidNumber splits label unspelled =>
      rw [(ofChars_eq_clause_iff no_comma _ _ _).mpr splits, ofTokens_clause,
        (ofLabel_eq_some_iff _ _).mpr label, (readFinite_eq_none_iff _).mpr unspelled]
      simp only [label]
  | unknownField splits unknown =>
      rw [(ofChars_eq_clause_iff no_comma _ _ _).mpr splits, ofTokens_clause,
        (ofLabel_eq_none_iff _).mpr unknown]
  | malformed none_splits =>
      rw [ofTokens_malformed, Token.toChars_ofChars]
      intro front sign back tokens
      exact none_splits front sign back ((ofChars_eq_clause_iff no_comma _ _ _).mp tokens)

theorem ofTokens_eq_iff {piece : List Char} (no_comma : ',' ∉ piece)
    (outcome : Except ClauseFault Comparison) :
    Comparison.ofTokens (Token.ofChars piece) = outcome ↔ Reads piece outcome := by
  constructor
  · rintro rfl
    exact reads_ofTokens no_comma
  · exact ofTokens_of_reads no_comma

theorem clauses_of_not_blank {text : List Char} (some_text : Text.trim text ≠ []) :
    clauses text =
      (text.splitOn ',').map fun piece => Comparison.ofTokens (Token.ofChars piece) := by
  rw [clauses, if_neg some_text, splitOn_ofChars, List.map_map]
  rfl

theorem clauses_intercalate {pieces : List (List Char)} (some_piece : pieces ≠ [])
    (no_comma : ∀ piece ∈ pieces, ',' ∉ piece)
    (some_text : Text.trim ([','].intercalate pieces) ≠ []) :
    clauses ([','].intercalate pieces) =
      pieces.map fun piece => Comparison.ofTokens (Token.ofChars piece) := by
  rw [clauses_of_not_blank some_text, List.splitOn_intercalate ',' no_comma some_piece]

theorem trim_eq_nil_iff (text : List Char) :
    Text.trim text = [] ↔ ∀ c ∈ text, Text.isBlank c = true := by
  have started : (∀ c ∈ Text.trimStart text, Text.isBlank c = true) ↔
      ∀ c ∈ text, Text.isBlank c = true := by
    rw [← List.dropWhile_eq_nil_iff, ← List.dropWhile_eq_nil_iff, Text.trimStart,
      List.dropWhile_idempotent]
  rw [Text.trim, Text.trimEnd, List.reverse_eq_nil_iff, List.dropWhile_eq_nil_iff, ← started]
  simp only [List.mem_reverse]

theorem mem_comparisons_iff (text : List Char) (comparison : Comparison) :
    comparison ∈ comparisons text ↔ .ok comparison ∈ clauses text := by
  rw [comparisons, List.mem_filterMap]
  constructor
  · rintro ⟨outcome, member, read⟩
    cases outcome with
    | error fault => simp [Except.toOption] at read
    | ok found =>
        cases read
        exact member
  · intro member
    exact ⟨.ok comparison, member, rfl⟩

theorem length_comparisons_le (text : List Char) :
    (comparisons text).length ≤ text.count ',' + 1 := by
  have read : (comparisons text).length ≤ (clauses text).length :=
    List.length_filterMap_le _ _
  by_cases blank : Text.trim text = []
  · rw [clauses, if_pos blank, List.length_nil] at read
    omega
  · rwa [clauses_of_not_blank blank, List.length_map, length_splitOn_comma] at read

theorem exists_not_blank {piece : List Char} {comparison : Comparison}
    (reads : Reads piece (.ok comparison)) : ∃ c ∈ piece, Text.isBlank c = false := by
  cases reads with
  | @comparison front sign back _ _ splits _ _ =>
      have first : sign.symbol.toList.any (!Text.isBlank ·) = true := by
        cases sign <;> decide
      obtain ⟨c, member, solid⟩ := List.any_eq_true.mp first
      refine ⟨c, ?_, by simpa using solid⟩
      rw [splits.whole]
      exact List.mem_append_left back (List.mem_append_right front member)

/-- A clause that is repeated is a comparison each time. -/
theorem comparisons_replicate {piece : List Char} (no_comma : ',' ∉ piece)
    {comparison : Comparison} (reads : Reads piece (.ok comparison)) (count : Nat) :
    comparisons ([','].intercalate (List.replicate (count + 1) piece)) =
      List.replicate (count + 1) comparison := by
  have pieces : ∀ part ∈ List.replicate (count + 1) piece, ',' ∉ part :=
    fun part member => List.eq_of_mem_replicate member ▸ no_comma
  have some_text : Text.trim ([','].intercalate (List.replicate (count + 1) piece)) ≠ [] := by
    obtain ⟨c, member, solid⟩ := exists_not_blank reads
    intro blank
    have within : c ∈ [','].intercalate (List.replicate (count + 1) piece) := by
      cases count with
      | zero => simpa using member
      | succ count =>
          rw [List.replicate_succ, List.replicate_succ, List.intercalate_cons_cons]
          simp [member]
    have isBlank := (trim_eq_nil_iff _).mp blank c within
    rw [solid] at isBlank
    exact absurd isBlank (by decide)
  have outcome := (ofTokens_eq_iff no_comma _).mpr reads
  rw [comparisons, clauses_intercalate (by simp) pieces some_text, List.map_replicate, outcome,
    List.filterMap_replicate_of_some]
  rfl

end ProductCatalog.Query
