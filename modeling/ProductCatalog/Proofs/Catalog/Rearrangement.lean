import ProductCatalog.Proofs.Catalog.Limits
import ProductCatalog.Proofs.Store.Rearrangement

/-! Listings by comparisons that come in another order, more than once, or among pieces of text that
cannot be read. -/

namespace ProductCatalog.Catalog

open Query (Filter Parameters Policy Rearranged Unread)
open Store (AnswersAlike WithinLimits answersAlike_of_select)

theorem withinLimits_ofParameters {parameters : Parameters}
    (few : Query.conditionCount parameters < Store.conditionLimit)
    (short : ¬AsksOverlong parameters) : WithinLimits (.ofParameters parameters) where
  conditions := by rwa [Query.length_predicates]
  patterns := by
    intro needle member
    cases (Query.mem_predicates_iff _ _).mp member with
    | name given some_text =>
        by_contra overlong
        exact short ⟨needle, given, some_text, by omega⟩

/-- The answers to a search depend on which conditions there are, and not on their order or on how
often each of them stands there. What cannot be read of a client's comparisons does not count. -/
theorem search_unordered :
    (∀ left right : Filter, Rearranged (fun _ => False) left.predicates right.predicates →
      WithinLimits left → WithinLimits right → AnswersAlike left right) ∧
    ∀ (parameters : Parameters) (left right : String),
      Rearranged Unread (left.toList.splitOn ',') (right.toList.splitOn ',') →
      Query.conditionCount { parameters with numericFilters := some left } <
        Store.conditionLimit →
      Query.conditionCount { parameters with numericFilters := some right } <
        Store.conditionLimit →
      ¬AsksOverlong parameters →
      list { parameters with numericFilters := some left } =
        list { parameters with numericFilters := some right } := by
  constructor
  · intro left right rearranged leftWithin rightWithin
    apply answersAlike_of_select
    exact Store.select_congr (fun _ => rearranged.mem_iff id) leftWithin rightWithin
  · intro parameters left right rearranged leftFew rightFew short
    have answers := answersAlike_of_select
      (Store.select_congr (Query.mem_predicates_rearranged rearranged parameters)
        (withinLimits_ofParameters leftFew short) (withinLimits_ofParameters rightFew short))
    have policy : Policy.ofParameters { parameters with numericFilters := some left } =
        .ofParameters { parameters with numericFilters := some right } := rfl
    simp only [list, execute, answers.find, answers.count, policy]

theorem unread_size : Unread "size=3".toList := by
  intro comparison reads
  have outcome := (Query.ofTokens_eq_iff (by decide) _).mpr reads
  cases outcome

theorem search_unordered_prices :
    AnswersAlike ⟨[.equals .featured (.flag true), .nameContains "mug"]⟩
      ⟨[.nameContains "mug", .equals .featured (.flag true), .nameContains "mug"]⟩ ∧
    list { numericFilters := some "price<50,rating>=4" } =
      list { numericFilters := some "rating>=4,size=3,price<50,rating>=4" } := by
  obtain ⟨filters, texts⟩ := search_unordered
  constructor
  · apply filters
    · exact Rearranged.trans (Rearranged.permuted (List.Perm.swap _ _ _))
        (@Rearranged.repeated _ _ _ [_, _] [] (by simp))
    · exact ⟨by decide, by simp; decide⟩
    · exact ⟨by decide, by simp; decide⟩
  · have left : "price<50,rating>=4".toList.splitOn ',' =
        ["price<50".toList, "rating>=4".toList] := by decide
    have right : "rating>=4,size=3,price<50,rating>=4".toList.splitOn ',' =
        ["rating>=4".toList, "size=3".toList, "price<50".toList, "rating>=4".toList] := by decide
    apply texts {}
    · rw [left, right]
      refine Rearranged.trans (Rearranged.permuted (List.Perm.swap _ _ _)) ?_
      refine Rearranged.trans (@Rearranged.inserted _ _ _ [_] [_] unread_size) ?_
      exact @Rearranged.repeated _ _ _ [_, _, _] [] (by simp)
    · exact (fits_of_small (by decide) (by decide) []).conditions
    · exact (fits_of_small (by decide) (by decide) []).conditions
    · rintro ⟨_, ⟨⟩, _⟩

end ProductCatalog.Catalog
