import ProductCatalog.Proofs.Store.Order

/-! The order of products by age. A table has its products in the order of their identities, so the
identity, as the last key, keeps products of one time in the order in which they are stored: the
order by age and identity is the stable order by age. -/

namespace ProductCatalog.Store

def isNotYounger (left right : Row) : Bool :=
  left.createdAt ≤ right.createdAt

theorem isNotYounger_trans (first second third : Row) (below : isNotYounger first second = true)
    (above : isNotYounger second third = true) : isNotYounger first third = true := by
  simp only [isNotYounger, decide_eq_true_eq] at below above ⊢
  omega

theorem isNotYounger_total (left right : Row) :
    (isNotYounger left right || isNotYounger right left) = true := by
  simp only [isNotYounger, Bool.or_eq_true, decide_eq_true_eq]
  omega

/-- The products by their times, the oldest first. Those of one time stay in order. -/
def oldestFirst (rows : List Row) : List Row :=
  rows.mergeSort isNotYounger

theorem oldestFirst_perm (rows : List Row) : (oldestFirst rows).Perm rows :=
  List.mergeSort_perm rows _

theorem oldestFirst_pairwise (rows : List Row) :
    (oldestFirst rows).Pairwise fun left right => left.createdAt ≤ right.createdAt := by
  have sorted := List.pairwise_mergeSort isNotYounger_trans isNotYounger_total rows
  exact sorted.imp of_decide_eq_true

theorem sublist_oldestFirst {part rows : List Row} (within : part.Sublist rows)
    (sorted : part.Pairwise fun left right => left.createdAt ≤ right.createdAt) :
    part.Sublist (oldestFirst rows) :=
  List.sublist_mergeSort isNotYounger_trans isNotYounger_total (sorted.imp decide_eq_true) within

def ofTime (time : Int) (rows : List Row) : List Row :=
  rows.filter fun row => row.createdAt = time

theorem ofTime_oldestFirst (time : Int) (rows : List Row) :
    ofTime time (oldestFirst rows) = ofTime time rows := by
  have tied : (ofTime time rows).Pairwise fun left right => left.createdAt ≤ right.createdAt := by
    apply List.pairwise_of_forall_mem_list
    intro left leftMember right rightMember
    have leftTime := of_decide_eq_true (List.mem_filter.mp leftMember).2
    have rightTime := of_decide_eq_true (List.mem_filter.mp rightMember).2
    omega
  have kept : (ofTime time rows).Sublist (oldestFirst rows) :=
    sublist_oldestFirst List.filter_sublist tied
  -- the sort keeps this part of the table together in order, and has no more of that time
  have among : (ofTime time rows).Sublist (ofTime time (oldestFirst rows)) := by
    have all : ∀ row ∈ ofTime time rows, decide (row.createdAt = time) = true :=
      fun row member => (List.mem_filter.mp member).2
    rw [← List.filter_eq_self.mpr all]
    exact kept.filter _
  have length : (ofTime time (oldestFirst rows)).length = (ofTime time rows).length :=
    ((oldestFirst_perm rows).filter _).length_eq
  exact (among.eq_of_length length.symm).symm

/-- The sequence has the products of a table by age, and those of one time as they are stored. -/
structure ByAge (rows sequence : List Row) : Prop where
  perm : sequence.Perm rows
  sorted : sequence.Pairwise fun left right => left.createdAt ≤ right.createdAt
  stable : ∀ time, ofTime time sequence = ofTime time rows

theorem oldestFirst_byAge (rows : List Row) : ByAge rows (oldestFirst rows) where
  perm := oldestFirst_perm rows
  sorted := oldestFirst_pairwise rows
  stable := fun time => ofTime_oldestFirst time rows

theorem oldestFirst_precedes {rows : List Row} (increasing : (rows.map (·.id)).Pairwise (· < ·)) :
    (oldestFirst rows).Pairwise (Precedes [⟨.createdAt, .ascending⟩, ⟨.id, .ascending⟩]) := by
  rw [List.pairwise_iff_forall_sublist]
  intro left right pair
  have notYounger := List.pairwise_iff_forall_sublist.mp (oldestFirst_pairwise rows) pair
  by_cases older : left.createdAt < right.createdAt
  · exact Precedes.decided older
  · have sameTime : right.createdAt = left.createdAt := by omega
    -- among the products of one time the sort leaves the order of the table, which is that of ids
    have stored : [left, right].Sublist rows := by
      have together := pair.filter fun row => decide (row.createdAt = left.createdAt)
      rw [List.filter_eq_self.mpr (by simp [sameTime])] at together
      have tied : [left, right].Sublist (ofTime left.createdAt (oldestFirst rows)) := together
      rw [ofTime_oldestFirst] at tied
      exact tied.trans List.filter_sublist
    have below : left.id < right.id :=
      List.pairwise_iff_forall_sublist.mp (List.pairwise_map.mp increasing) stored
    have notOlder : ¬right.createdAt < left.createdAt := by omega
    have notAbove : ¬right.id < left.id := by omega
    exact Precedes.tied older notOlder (Precedes.decided below)

/-- The default order of a search is the stable order by age. -/
theorem sortBy_age {rows : List Row} (increasing : (rows.map (·.id)).Pairwise (· < ·)) :
    sortBy [⟨.createdAt, .ascending⟩, ⟨.id, .ascending⟩] rows = oldestFirst rows := by
  have distinct : (rows.map (·.id)).Nodup := increasing.imp fun below => Int.ne_of_lt below
  apply eq_of_perm_of_precedes (sortBy_pairwise ⟨⟨.id, .ascending⟩, by simp, rfl⟩ distinct)
    (oldestFirst_precedes increasing)
  exact (sortBy_perm _ rows).trans (oldestFirst_perm rows).symm

end ProductCatalog.Store
