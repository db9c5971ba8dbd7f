import Mathlib.Data.Int.Interval
import ProductCatalog.Proofs.Query.PageNumber
import ProductCatalog.Proofs.Store.Order
import ProductCatalog.Proofs.Store.Selection

/-! Pages of a search. The pages of one filter and one order, put together, are the sequence of all
products that pass, each of them once; and they do not depend on how the products are stored. -/

namespace ProductCatalog.Store

open Query (Filter Policy)

theorem page_eq (policy : Policy) {rows : List Row} (few : rows.length ≤ Query.maxSkip) :
    page policy rows =
      (rows.drop ((policy.page.toNat - 1) * policy.limit.toNat)).take policy.limit.toNat := by
  rw [page, Query.offset_toNat]
  by_cases near : (policy.page.toNat - 1) * policy.limit.toNat ≤ Query.maxSkip
  · rw [Nat.min_eq_left near]
  · rw [Nat.min_eq_right (by omega), List.drop_eq_nil_of_le few,
      List.drop_eq_nil_of_le (by omega : rows.length ≤ _)]

/-- The identities of a table are those that the engine gives, each of them given once. -/
structure Database.Identified (database : Database) : Prop where
  distinct : (database.entries.map (·.row.id)).Nodup
  bounds : ∀ entry ∈ database.entries, 0 < entry.row.id ∧ entry.row.id ≤ maxId

theorem Database.Identified.length_le {database : Database} (identified : database.Identified) :
    database.entries.length ≤ maxId := by
  have subset : (database.entries.map (·.row.id)).toFinset ⊆ Finset.Icc 1 (maxId : Int) := by
    intro id member
    obtain ⟨entry, belongs, rfl⟩ := List.mem_map.mp (List.mem_toFinset.mp member)
    have bounds := identified.bounds entry belongs
    exact Finset.mem_Icc.mpr ⟨by omega, bounds.2⟩
  calc database.entries.length
      = (database.entries.map (·.row.id)).toFinset.card := by
        rw [List.toFinset_card_of_nodup identified.distinct, List.length_map]
    _ ≤ (Finset.Icc 1 (maxId : Int)).card := Finset.card_le_card subset
    _ = maxId := by rw [Int.card_Icc]; omega

def Database.sequence (database : Database) (filter : Filter) (policy : Policy) : List Row :=
  sortBy policy.orderKeys ((database.matching filter).map (·.row))

theorem Database.Identified.distinct_matching {database : Database}
    (identified : database.Identified) (filter : Filter) :
    (((database.matching filter).map (·.row)).map (·.id)).Nodup := by
  rw [List.map_map]
  exact identified.distinct.sublist ((List.filter_sublist).map _)

theorem Database.Identified.length_sequence_le {database : Database}
    (identified : database.Identified) (filter : Filter) (policy : Policy) :
    (database.sequence filter policy).length ≤ Query.maxSkip := by
  have chosen : (database.matching filter).length ≤ database.entries.length :=
    List.length_filter_le _ _
  have all := identified.length_le
  rw [Database.sequence, (sortBy_perm _ _).length_eq, List.length_map]
  exact Nat.le_trans chosen all

/-- A page of a search that is not refused is a slice of the sequence. -/
theorem find_eq_slice {database : Database} (identified : database.Identified) {filter : Filter}
    (answered : database.objection? filter = none) (policy : Policy) :
    database.find filter policy =
      .ok ((((database.sequence filter policy).drop
          ((policy.page.toNat - 1) * policy.limit.toNat)).take policy.limit.toNat).map
        (·.project policy.projection.fields)) := by
  have few := identified.length_sequence_le filter policy
  rw [find_eq, answered]
  simp only [present]
  rw [← Database.sequence, page_eq policy few]

/-- The records of the first pages, one page after the other. -/
def Database.firstPages (database : Database) (filter : Filter) (policy : Policy) :
    Nat → Except Fault (List Record)
  | 0 => .ok []
  | count + 1 => do
    let earlier ← database.firstPages filter policy count
    let last ← database.find filter { policy with page := UInt32.ofNat (count + 1) }
    return earlier ++ last

theorem firstPages_eq {database : Database} (identified : database.Identified) {filter : Filter}
    (answered : database.objection? filter = none) (policy : Policy) (count : Nat)
    (representable : count < UInt32.size) :
    database.firstPages filter policy count =
      .ok (((database.sequence filter policy).take (count * policy.limit.toNat)).map
        (·.project policy.projection.fields)) := by
  induction count with
  | zero => simp [Database.firstPages]
  | succ count ih =>
      have pageNumber : (UInt32.ofNat (count + 1)).toNat - 1 = count := by
        rw [UInt32.toNat_ofNat_of_lt' representable]
        rfl
      have last := find_eq_slice identified answered
        { policy with page := UInt32.ofNat (count + 1) }
      simp only [pageNumber] at last
      rw [Database.firstPages, ih (Nat.lt_of_succ_lt representable)]
      simp only [bind, Except.bind]
      rw [last]
      simp only [pure, Except.pure, ← List.map_append]
      rw [Nat.succ_mul, List.take_add]
      rfl

def pageCount (total limit : Nat) : Nat :=
  (total + limit - 1) / limit

theorem le_mul_of_pageCount_le {total limit count : Nat} (positive : 0 < limit)
    (enough : pageCount total limit ≤ count) : total ≤ count * limit := by
  have below : total + limit - 1 < (count + 1) * limit := by
    rw [← Nat.div_lt_iff_lt_mul positive]
    exact Nat.lt_succ_of_le enough
  rw [Nat.succ_mul] at below
  omega

/-- The same products, stored in another order. -/
inductive Contents.Rearranges : Contents → Contents → Prop
  | plain {left right} : left.Perm right → Rearranges (plain left) (plain right)
  | folded {left right} : left.Perm right → Rearranges (folded left) (folded right)

def Database.Rearranges (left right : Database) : Prop :=
  Option.Rel (fun left right : Table => left.contents.Rearranges right.contents)
    left.products right.products

theorem Contents.Rearranges.entries {left right : Contents} (rearranged : left.Rearranges right) :
    left.entries.Perm right.entries := by
  cases rearranged with
  | plain perm => exact perm.map _
  | folded perm => exact perm

theorem Contents.Rearranges.isPlain {left right : Contents} (rearranged : left.Rearranges right) :
    left.isPlain = right.isPlain := by
  cases rearranged <;> rfl

theorem Database.Rearranges.entries {left right : Database} (rearranged : left.Rearranges right) :
    left.entries.Perm right.entries := by
  obtain ⟨_, leftTable⟩ := left
  obtain ⟨_, rightTable⟩ := right
  unfold Database.entries
  cases rearranged with
  | none => exact List.Perm.nil
  | some same => exact same.entries

theorem Database.Rearranges.objection {left right : Database} (rearranged : left.Rearranges right)
    (filter : Filter) : left.objection? filter = right.objection? filter := by
  obtain ⟨_, leftTable⟩ := left
  obtain ⟨_, rightTable⟩ := right
  unfold Database.objection?
  cases rearranged with
  | none => rfl
  | some same => simp only [same.isPlain, same.entries.any_eq]

theorem Database.Rearranges.find_eq {left right : Database} (rearranged : left.Rearranges right)
    (distinct : (right.entries.map (·.row.id)).Nodup) (filter : Filter) (policy : Policy) :
    left.find filter policy = right.find filter policy := by
  have matched : ((left.matching filter).map (·.row)).Perm ((right.matching filter).map (·.row)) :=
    (rearranged.entries.filter _).map _
  have apart : (((right.matching filter).map (·.row)).map (·.id)).Nodup := by
    rw [List.map_map]
    exact distinct.sublist ((List.filter_sublist).map _)
  rw [Store.find_eq, Store.find_eq, rearranged.objection filter]
  simp only [present, sortBy_congr (id_named_orderKeys policy) apart matched]

/-- The pages of a search are those of one strictly increasing sequence of all products that pass:
together they show each of these once, pages behind the last one are empty, also where more products
would have to be skipped than can be, and none of it depends on how the products are stored. A
search that is refused is refused on every page. -/
theorem paging_lossless (database : Database) (identified : database.Identified) (filter : Filter)
    (policy : Policy) (positive : 1 ≤ policy.limit.toNat) :
    (match database.objection? filter with
      | some refusal =>
        database.count filter = .error (.ofRefusal refusal) ∧
        ∀ page, database.find filter { policy with page } = .error (.ofRefusal refusal)
      | none =>
        ∃ sequence : List Row,
          sequence.Perm ((database.matching filter).map (·.row)) ∧
          sequence.Pairwise (Precedes policy.orderKeys) ∧
          database.count filter = .ok sequence.length ∧
          (∀ count < UInt32.size, database.firstPages filter policy count =
            .ok ((sequence.take (count * policy.limit.toNat)).map
              (·.project policy.projection.fields))) ∧
          (∀ count < UInt32.size, pageCount sequence.length policy.limit.toNat ≤ count →
            database.firstPages filter policy count =
              .ok (sequence.map (·.project policy.projection.fields))) ∧
          ∀ page : UInt32, pageCount sequence.length policy.limit.toNat < page.toNat →
            database.find filter { policy with page } = .ok []) ∧
    ∀ (other : Database), other.Rearranges database → ∀ (filter : Filter) (policy : Policy),
      other.find filter policy = database.find filter policy := by
  refine ⟨?_, fun other rearranged filter policy =>
    rearranged.find_eq identified.distinct filter policy⟩
  cases answered : database.objection? filter with
  | some refusal =>
      refine ⟨by rw [count_eq, answered], fun page => ?_⟩
      rw [find_eq, answered]
  | none =>
      have apart := identified.distinct_matching filter
      refine ⟨database.sequence filter policy, sortBy_perm _ _,
        sortBy_pairwise (id_named_orderKeys policy) apart, ?_, ?_, ?_, ?_⟩
      · rw [count_eq, answered, Database.sequence, (sortBy_perm _ _).length_eq, List.length_map]
      · exact fun count => firstPages_eq identified answered policy count
      · intro count representable enough
        rw [firstPages_eq identified answered policy count representable,
          List.take_of_length_le (le_mul_of_pageCount_le positive enough)]
      · intro page beyond
        have shown := le_mul_of_pageCount_le positive (Nat.le_sub_one_of_lt beyond)
        rw [find_eq_slice identified answered]
        have same : database.sequence filter { policy with page } =
            database.sequence filter policy :=
          rfl
        rw [same, List.drop_eq_nil_of_le shown, List.take_nil, List.map_nil]

def twin (id : Int) : Entry where
  row := ⟨id, "Lamp", 10.0, 4.5, "ikea", false, 0⟩
  foldedName := "lamp"

def twins : Database :=
  ⟨.number 2, some { contents := .folded [twin 2, twin 1], lastId := 2 }⟩

theorem paging_lossless_twins :
    twins.Identified ∧ twins.count {} = .ok 2 ∧
      ∃ sequence : List Row, sequence.Perm twins.rows ∧
        sequence.Pairwise (Precedes [⟨.createdAt, .ascending⟩, ⟨.id, .ascending⟩]) ∧
        twins.firstPages {} { limit := 1 } 2 = .ok (sequence.map (·.project Field.all)) := by
  have identified : twins.Identified := ⟨by decide, by decide⟩
  have answered : twins.objection? {} = none := by decide
  have pages := (paging_lossless twins identified {} { limit := 1 } (by decide)).1
  rw [answered] at pages
  obtain ⟨sequence, perm, increasing, total, _, complete, _⟩ := pages
  have two : sequence.length = 2 := by
    rw [perm.length_eq]
    rfl
  refine ⟨identified, by rw [total, two], sequence, perm, increasing, complete 2 (by decide) ?_⟩
  rw [two]
  decide

end ProductCatalog.Store
