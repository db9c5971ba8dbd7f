import Mathlib.Data.String.Basic
import ProductCatalog.Proofs.Text.Like
import ProductCatalog.Query.Statement

/-! How long the pattern for a needle is, in bytes. -/

namespace ProductCatalog.Text

theorem utf8Len_escapeChar (c : Char) :
    1 ≤ String.utf8Len (Like.escapeChar c) ∧ String.utf8Len (Like.escapeChar c) ≤ 4 := by
  have some_bytes := c.utf8Size_pos
  have few_bytes := c.utf8Size_le_four
  unfold Like.escapeChar
  split
  · rename_i special
    rcases special with rfl | rfl | rfl <;> decide
  · simp only [String.utf8Len_cons, String.utf8Len_nil]
    omega

theorem utf8Len_escape_lowercaseChar (c : Char) :
    1 ≤ String.utf8Len (Like.escape (lowercaseChar c)) ∧
      String.utf8Len (Like.escape (lowercaseChar c)) ≤ 4 := by
  unfold lowercaseChar
  split
  · rw [Like.escape_singleton]
    exact utf8Len_escapeChar _
  · split
    · decide
    · rw [Like.escape_singleton]
      exact utf8Len_escapeChar _

theorem utf8Len_escape_lowercaseAfter (before text : List Char) :
    text.length ≤ String.utf8Len (Like.escape (lowercaseAfter before text)) ∧
      String.utf8Len (Like.escape (lowercaseAfter before text)) ≤ 4 * text.length := by
  induction text generalizing before with
  | nil => simp [lowercaseAfter, Like.escape_nil]
  | cons c rest ih =>
      have others := ih (c :: before)
      rw [lowercaseAfter, List.length_cons]
      split
      · have first := utf8Len_escapeChar (lowercaseSigma before rest)
        simp only [Like.escape_cons, String.utf8Len_append] at others ⊢
        omega
      · have first := utf8Len_escape_lowercaseChar c
        simp only [Like.escape_append, String.utf8Len_append] at first others ⊢
        omega

/-- A pattern has at least one byte and at most four for each character of its needle, and one for
each of the two signs around it. -/
theorem needlePattern_size (needle : String) :
    needle.length + 2 ≤ (Query.needlePattern needle).utf8ByteSize ∧
      (Query.needlePattern needle).utf8ByteSize ≤ 4 * needle.length + 2 := by
  have escaped := utf8Len_escape_lowercaseAfter [] needle.toList
  have percent : '%'.utf8Size = 1 := by decide
  rw [String.length_toList] at escaped
  simp only [Query.needlePattern, String.utf8ByteSize_ofList, Like.containing, lowercase,
    List.cons_append, String.utf8Len_cons, String.utf8Len_append, String.utf8Len_nil, percent]
  omega

end ProductCatalog.Text
