import Mathlib.Data.List.Basic
import ProductCatalog.Proofs.Query.Clauses

/-! Lists that have the same items but for some that do not count. The order of the pieces of a
text, repeated pieces, and pieces that cannot be read make no difference to which comparisons there
are. -/

namespace ProductCatalog.Query

/-- The second list comes from the first one by reordering, by repeating what is there, and by
adding items that are ignored. -/
inductive Rearranged {α : Type} (ignored : α → Prop) : List α → List α → Prop
  | permuted {left right} : left.Perm right → Rearranged ignored left right
  | repeated {item front back} : item ∈ front ++ back →
      Rearranged ignored (front ++ back) (front ++ item :: back)
  | inserted {item front back} : ignored item →
      Rearranged ignored (front ++ back) (front ++ item :: back)
  | trans {left middle right} : Rearranged ignored left middle →
      Rearranged ignored middle right → Rearranged ignored left right

theorem Rearranged.mem_iff {α : Type} {ignored : α → Prop} {left right : List α}
    (rearranged : Rearranged ignored left right) {item : α} (counted : ¬ignored item) :
    item ∈ left ↔ item ∈ right := by
  induction rearranged with
  | permuted same => exact same.mem_iff
  | repeated present =>
      rw [List.perm_middle.mem_iff, List.mem_cons]
      constructor
      · exact Or.inr
      · rintro (rfl | among)
        · exact present
        · exact among
  | @inserted extra front back unimportant =>
      have different : item ≠ extra := by
        rintro rfl
        exact counted unimportant
      rw [List.perm_middle.mem_iff, List.mem_cons, or_iff_right different]
  | trans _ _ first second => exact first.trans second

/-- No comparison can be read from the piece. -/
def Unread (piece : List Char) : Prop :=
  ∀ comparison, ¬Reads piece (.ok comparison)

theorem mem_comparisons_iff_reads (text : List Char) (comparison : Comparison) :
    comparison ∈ comparisons text ↔ ∃ piece ∈ text.splitOn ',', Reads piece (.ok comparison) := by
  rw [mem_comparisons_iff]
  by_cases blank : Text.trim text = []
  · have blanks := (trim_eq_nil_iff text).mp blank
    have no_comma : ',' ∉ text := fun member => absurd (blanks ',' member) (by decide)
    rw [clauses, if_pos blank, List.splitOn_eq_singleton no_comma]
    constructor
    · intro member
      simp at member
    · rintro ⟨piece, among, reads⟩
      obtain ⟨c, member, solid⟩ := exists_not_blank reads
      rw [List.mem_singleton.mp among] at member
      rw [blanks c member] at solid
      exact absurd solid (by decide)
  · rw [clauses_of_not_blank blank, List.mem_map]
    refine exists_congr fun piece => and_congr_right fun among => ?_
    exact ofTokens_eq_iff (comma_not_mem_piece text piece among) _

theorem mem_comparisons_rearranged {left right : List Char}
    (rearranged : Rearranged Unread (left.splitOn ',') (right.splitOn ','))
    (comparison : Comparison) : comparison ∈ comparisons left ↔ comparison ∈ comparisons right := by
  rw [mem_comparisons_iff_reads, mem_comparisons_iff_reads]
  refine exists_congr fun piece => and_congr_left fun reads => ?_
  exact rearranged.mem_iff fun unread => unread comparison reads

theorem asked_of_mem_comparisons {parameters : Parameters} {left right : String}
    (kept : ∀ comparison ∈ comparisons left.toList, comparison ∈ comparisons right.toList)
    {predicate : Predicate}
    (asked : Asked { parameters with numericFilters := some left } predicate) :
    Asked { parameters with numericFilters := some right } predicate := by
  cases asked with
  | featured given some_text => exact Asked.featured given some_text
  | company given some_text => exact Asked.company given some_text
  | name given some_text => exact Asked.name given some_text
  | compares given some_text among =>
      obtain rfl := Option.some.inj given
      have found := kept _ among
      refine Asked.compares rfl ?_ found
      rintro rfl
      exact absurd found List.not_mem_nil

theorem mem_predicates_rearranged {left right : String}
    (rearranged : Rearranged Unread (left.toList.splitOn ',') (right.toList.splitOn ','))
    (parameters : Parameters) (predicate : Predicate) :
    predicate ∈ (Filter.ofParameters
        { parameters with numericFilters := some left }).predicates ↔
      predicate ∈ (Filter.ofParameters
        { parameters with numericFilters := some right }).predicates := by
  rw [mem_predicates_iff, mem_predicates_iff]
  have same := mem_comparisons_rearranged rearranged
  constructor
  · exact asked_of_mem_comparisons fun comparison => (same comparison).mp
  · exact asked_of_mem_comparisons fun comparison => (same comparison).mpr

end ProductCatalog.Query
