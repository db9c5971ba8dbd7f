import ProductCatalog.Proofs.Query.Sorting
import ProductCatalog.Store.Order

/-! The order of products under a list of keys. Whatever the keys are, it is transitive and total up
to ties; as soon as the identity is among them there are no ties between different products, and a
set of products has one sequence in which it is sorted. -/

namespace ProductCatalog.Store

open Query (SortKey Policy)

def Before : Field → Row → Row → Prop
  | .id, left, right => left.id < right.id
  | .name, left, right => left.name < right.name
  | .price, left, right => Decimal.rank left.price < Decimal.rank right.price
  | .rating, left, right => Decimal.rank left.rating < Decimal.rank right.rating
  | .company, left, right => left.company < right.company
  | .featured, left, right => left.featured = false ∧ right.featured = true
  | .createdAt, left, right => left.createdAt < right.createdAt

def KeyBefore (key : SortKey) (left right : Row) : Prop :=
  match key.direction with
  | .ascending => Before key.field left right
  | .descending => Before key.field right left

/-- The first key that tells two products apart says which of them comes first. -/
inductive Precedes : List SortKey → Row → Row → Prop
  | decided {key rest left right} : KeyBefore key left right → Precedes (key :: rest) left right
  | tied {key rest left right} : ¬KeyBefore key left right → ¬KeyBefore key right left →
      Precedes rest left right → Precedes (key :: rest) left right

theorem compareByField_eq_lt_iff (field : Field) (left right : Row) :
    compareByField field left right = .lt ↔ Before field left right := by
  cases field with
  | featured =>
      change compare left.featured right.featured = .lt ↔ _
      simp only [Before]
      cases left.featured <;> cases right.featured <;> decide
  | _ => exact compareOfLessAndEq_eq_lt

theorem compareByKey_eq_lt_iff (key : SortKey) (left right : Row) :
    compareByKey key left right = .lt ↔ KeyBefore key left right := by
  unfold compareByKey KeyBefore
  cases key.direction <;> exact compareByField_eq_lt_iff _ _ _

instance transCmp_compareByField (field : Field) : Std.TransCmp (compareByField field) := by
  cases field <;> exact inferInstanceAs (Std.TransCmp (compareOn _))

instance transCmp_compareByKey (key : SortKey) : Std.TransCmp (compareByKey key) := by
  obtain ⟨field, direction⟩ := key
  cases direction with
  | ascending => exact transCmp_compareByField field
  | descending =>
      have forward : Std.TransCmp (compareByField field) := transCmp_compareByField field
      exact forward.opposite

instance transCmp_compareByKeys (keys : List SortKey) : Std.TransCmp (compareByKeys keys) := by
  induction keys with
  | nil => exact { eq_swap := rfl, isLE_trans := fun _ _ => rfl }
  | cons key rest ih =>
      exact inferInstanceAs (Std.TransCmp (compareLex (compareByKey key) (compareByKeys rest)))

theorem compareByKeys_eq_lt_iff (keys : List SortKey) (left right : Row) :
    compareByKeys keys left right = .lt ↔ Precedes keys left right := by
  induction keys with
  | nil =>
      constructor
      · intro impossible
        simp [compareByKeys] at impossible
      · intro impossible
        cases impossible
  | cons key rest ih =>
      have backward : compareByKey key right left = .lt ↔ compareByKey key left right = .gt :=
        Std.OrientedCmp.gt_iff_lt.symm
      rw [compareByKeys, Ordering.then_eq_lt, ih]
      constructor
      · rintro (first | ⟨tie, later⟩)
        · exact Precedes.decided ((compareByKey_eq_lt_iff key left right).mp first)
        · refine Precedes.tied ?_ ?_ later
          · rw [← compareByKey_eq_lt_iff, tie]
            simp
          · rw [← compareByKey_eq_lt_iff, backward, tie]
            simp
      · intro before
        cases before with
        | decided first => exact Or.inl ((compareByKey_eq_lt_iff key left right).mpr first)
        | tied notBefore notAfter later =>
            rw [← compareByKey_eq_lt_iff] at notBefore notAfter
            rw [backward] at notAfter
            refine Or.inr ⟨?_, later⟩
            cases outcome : compareByKey key left right with
            | lt => exact absurd outcome notBefore
            | eq => rfl
            | gt => exact absurd outcome notAfter

theorem compareByKeys_swap (keys : List SortKey) (left right : Row) :
    compareByKeys keys right left = (compareByKeys keys left right).swap :=
  Std.OrientedCmp.eq_swap

theorem Precedes.asymm {keys : List SortKey} {left right : Row}
    (before : Precedes keys left right) :
    ¬Precedes keys right left := by
  rw [← compareByKeys_eq_lt_iff] at before ⊢
  rw [compareByKeys_swap, before]
  simp

theorem id_eq_of_compareByKeys {keys : List SortKey} (named : ∃ key ∈ keys, key.field = .id)
    {left right : Row} (tie : compareByKeys keys left right = .eq) : left.id = right.id := by
  induction keys with
  | nil =>
      obtain ⟨key, member, _⟩ := named
      simp at member
  | cons key rest ih =>
      rw [compareByKeys, Ordering.then_eq_eq] at tie
      obtain ⟨found, member, isId⟩ := named
      rcases List.mem_cons.mp member with first | later
      · subst found
        have same := tie.1
        simp only [compareByKey, isId] at same
        split at same
        · exact Std.LawfulEqOrd.eq_of_compare (α := Int) same
        · exact (Std.LawfulEqOrd.eq_of_compare (α := Int) same).symm
      · exact ih ⟨found, later, isId⟩ tie.2

theorem id_named_orderKeys (policy : Policy) : ∃ key ∈ policy.orderKeys, key.field = .id :=
  List.mem_map.mp (Query.id_mem_orderKeys policy)

theorem sortBy_perm (keys : List SortKey) (rows : List Row) : (sortBy keys rows).Perm rows :=
  List.mergeSort_perm rows _

theorem sortBy_pairwise_isLE (keys : List SortKey) (rows : List Row) :
    (sortBy keys rows).Pairwise fun left right => (compareByKeys keys left right).isLE := by
  apply List.pairwise_mergeSort
  · intro first second third below above
    exact Std.TransCmp.isLE_trans below above
  · intro left right
    rw [compareByKeys_swap keys left right]
    cases compareByKeys keys left right <;> rfl

/-- Products with distinct identities are sorted into a strictly increasing sequence. -/
theorem sortBy_pairwise {keys : List SortKey} (named : ∃ key ∈ keys, key.field = .id)
    {rows : List Row} (distinct : (rows.map (·.id)).Nodup) :
    (sortBy keys rows).Pairwise (Precedes keys) := by
  have sorted := sortBy_pairwise_isLE keys rows
  have apart : (sortBy keys rows).Pairwise fun left right => left.id ≠ right.id := by
    rw [← List.pairwise_map]
    exact ((sortBy_perm keys rows).map (·.id)).nodup_iff.mpr distinct
  refine sorted.imp₂ ?_ apart
  intro left right notAfter different
  rw [← compareByKeys_eq_lt_iff]
  cases outcome : compareByKeys keys left right with
  | lt => rfl
  | eq => exact absurd (id_eq_of_compareByKeys named outcome) different
  | gt =>
      rw [outcome] at notAfter
      simp at notAfter

/-- There is one strictly increasing sequence of given products. -/
theorem eq_of_perm_of_precedes {keys : List SortKey} {left right : List Row}
    (leftSorted : left.Pairwise (Precedes keys)) (rightSorted : right.Pairwise (Precedes keys))
    (perm : left.Perm right) : left = right := by
  apply List.Perm.eq_of_pairwise _ leftSorted rightSorted perm
  intro first second _ _ before after
  exact absurd after before.asymm

theorem sortBy_congr {keys : List SortKey} (named : ∃ key ∈ keys, key.field = .id)
    {rows others : List Row} (distinct : (rows.map (·.id)).Nodup) (perm : others.Perm rows) :
    sortBy keys others = sortBy keys rows := by
  have others_sorted : (sortBy keys others).Pairwise (Precedes keys) :=
    sortBy_pairwise named ((perm.map (·.id)).nodup_iff.mpr distinct)
  apply eq_of_perm_of_precedes others_sorted
  · exact sortBy_pairwise named distinct
  · exact (sortBy_perm keys others).trans (perm.trans (sortBy_perm keys rows).symm)

end ProductCatalog.Store
