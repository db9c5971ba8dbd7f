import ProductCatalog.Proofs.Catalog.Listing
import ProductCatalog.Proofs.Catalog.Loading
import ProductCatalog.Proofs.Outcome
import ProductCatalog.Proofs.Store.Age
import ProductCatalog.Proofs.Store.Ordered

/-! What a load that succeeds leaves behind, and how a client who pages through the catalog finds it
again: the products of the list behind those that were kept, shown by age. -/

namespace ProductCatalog.Catalog

open Query (Filter Parameters Policy)
open Store (AcceptedBy Action ByAge Connection Database Keeps newEntries oldestFirst)

theorem load_succeeded {now : Int} {products : List NewProduct} {keep : Bool}
    {before after : Connection} {count : Nat}
    (loaded : load now products keep before = (.ok count, after))
    (ordered : before.database.Ordered) :
    count = products.length ∧ after.isOpen = true ∧ after.database.Ordered ∧
      ∃ lastId checked,
        after.database.rows = (if keep then before.database.rows else []) ++
          (newEntries now lastId products).map (·.row) ∧
        ∀ product ∈ products, AcceptedBy checked product := by
  -- either way the load ends with products that are added to a base
  have adds {base : Connection} (baseOrdered : base.database.Ordered)
      (added : Store.insertAll now products base = (.ok count, after)) :
      count = products.length ∧ after.isOpen = true ∧ after.database.Ordered ∧
        ∃ lastId checked,
          after.database.rows = base.database.rows ++ (newEntries now lastId products).map (·.row) ∧
          ∀ product ∈ products, AcceptedBy checked product := by
    obtain ⟨_, isOpen, inserted⟩ := Store.change_succeeded added
    obtain ⟨database, outcome, same⟩ := map_eq_ok inserted
    cases same
    exact ⟨rfl, isOpen, baseOrdered.insertAll outcome⟩
  cases keep with
  | true =>
      rw [load_kept] at loaded
      exact adds ordered loaded
  | false =>
      rw [load_replacing, Store.bind_apply] at loaded
      rcases outcome : Store.clear before with ⟨fault | removed, between⟩
      · rw [outcome] at loaded
        cases loaded
      · rw [outcome] at loaded
        obtain ⟨_, _, cleared⟩ := Store.change_succeeded outcome
        obtain ⟨betweenOrdered, nothing⟩ := ordered.clear cleared
        have added := adds betweenOrdered loaded
        rw [nothing] at added
        exact added

/-- What a client asks for who pages through the catalog: nothing but the number of the page, and
how many products a page has if that is not to be as usual. -/
def pageOf (number : UInt32) (limit : Option UInt32) : Parameters where
  page := some (Query.written number)
  limit := limit.map Query.written

/-- The records of the first pages, one page after the other. -/
def browse (limit : Option UInt32) : Nat → Action (List Record)
  | 0 => return []
  | count + 1 => do
    let earlier ← browse limit count
    let last ← list (pageOf (UInt32.ofNat (count + 1)) limit)
    return earlier ++ last.records

theorem policy_pageOf {number : UInt32} (positive : number ≠ 0) {limit : Option UInt32}
    (some_product : limit ≠ some 0) :
    Policy.ofParameters (pageOf number limit) = { page := number, limit := limit.getD 10 } := by
  have page := Query.readPositive_written positive 1
  have size : Query.readPositive (Query.present (limit.map Query.written)) 10 = limit.getD 10 := by
    cases limit with
    | none => rfl
    | some size => exact Query.readPositive_written (fun zero => some_product (zero ▸ rfl)) 10
  simp only [Policy.ofParameters, pageOf, page, size]
  rfl

theorem objection_of_ordered {database : Database} (ordered : database.Ordered) :
    database.objection? {} = none := by
  obtain ⟨table, products, _⟩ := ordered
  have untested : table.contents.entries.any (Store.testsOverlong · []) = false := by
    simp [Store.testsOverlong]
  simp [Database.objection?, products, Store.conditionLimit, untested]

theorem matching_all (database : Database) : database.matching {} = database.entries :=
  List.filter_true _

theorem sequence_of_ordered {database : Database} (ordered : database.Ordered)
    (number limit : UInt32) :
    database.sequence {} { page := number, limit } = oldestFirst database.rows := by
  rw [Database.sequence, matching_all, database.rows_entries]
  exact Store.sortBy_age ordered.rows_increasing

/-- A page of the catalog as it is shown to a client. -/
def shownPage (rows : List Row) (number limit : UInt32) : Listing where
  records := (((oldestFirst rows).drop ((number.toNat - 1) * limit.toNat)).take limit.toNat).map
    (·.project Field.all)
  total := rows.length

theorem execute_all {connection : Connection} (ordered : connection.database.Ordered)
    (isOpen : connection.isOpen = true) (number limit : UInt32) :
    execute {} { page := number, limit } connection =
      (.ok (shownPage connection.database.rows number limit), connection) := by
  have answered := objection_of_ordered ordered
  rw [execute_eq {} _ isOpen, Store.find_eq_slice ordered.identified answered, Store.count_eq,
    answered, sequence_of_ordered ordered, matching_all]
  simp only [shownPage, ← Database.rows_entries, List.length_map]
  rfl

theorem list_pageOf {connection : Connection} (ordered : connection.database.Ordered)
    (isOpen : connection.isOpen = true) {number : UInt32} (positive : number ≠ 0)
    {limit : Option UInt32} (some_product : limit ≠ some 0) :
    list (pageOf number limit) connection =
      (.ok (shownPage connection.database.rows number (limit.getD 10)), connection) := by
  rw [list, policy_pageOf positive some_product]
  exact execute_all ordered isOpen number (limit.getD 10)

theorem browse_eq {connection : Connection} (ordered : connection.database.Ordered)
    (isOpen : connection.isOpen = true) {limit : Option UInt32} (some_product : limit ≠ some 0)
    {pages : Nat} (representable : pages < UInt32.size) :
    browse limit pages connection =
      (.ok (((oldestFirst connection.database.rows).take (pages * (limit.getD 10).toNat)).map
        (·.project Field.all)), connection) := by
  induction pages with
  | zero => simp [browse]; rfl
  | succ pages ih =>
      have value : (UInt32.ofNat (pages + 1)).toNat = pages + 1 :=
        UInt32.toNat_ofNat_of_lt' representable
      have positive : UInt32.ofNat (pages + 1) ≠ 0 := by
        intro zero
        rw [zero] at value
        exact absurd value (by simp)
      rw [browse, Store.bind_apply, ih (Nat.lt_of_succ_lt representable)]
      simp only [Store.bind_apply, list_pageOf ordered isOpen positive some_product, shownPage,
        value, Nat.add_sub_cancel]
      rw [Nat.succ_mul, List.take_add, List.map_append]
      rfl

/-- The number that a client is shown, if it is one. -/
def shownNumber? : Json.Value → Option Float
  | .number x => if Decimal.isFinite x then some x else none
  | _ => none

/-- A finite number is shown by its value. Infinity has no text in JSON and is shown as null. -/
def ShowsNumber (x : Float) (shown : Json.Value) : Prop :=
  if Decimal.isFinite x then ∃ y, shownNumber? shown = some y ∧ Decimal.isSame y x = true
  else shown.write = Json.Value.null.write

structure Shows (product : NewProduct) (record : Record) : Prop where
  name : (.name, .text product.name) ∈ record
  company : (.company, .text product.company) ∈ record
  featured : (.featured, .flag product.featured) ∈ record
  price : ∃ shown, (.price, shown) ∈ record ∧ ShowsNumber product.price shown
  rating : ∃ shown, (.rating, shown) ∈ record ∧ ShowsNumber product.rating shown

/-- The row is that of a product which was loaded at the given time. -/
structure Restores (now : Int) (product : NewProduct) (row : Row) : Prop where
  name : row.name = product.name
  company : row.company = product.company
  featured : row.featured = product.featured
  price : Decimal.isSame row.price product.price = true
  rating : Decimal.isSame row.rating product.rating = true
  createdAt : row.createdAt = product.createdAt.getD now
  shown : Shows product (row.project Field.all)

theorem mem_project_all (row : Row) (field : Field) :
    (field, row.value field) ∈ row.project Field.all := by
  apply List.mem_map_of_mem
  cases field <;> decide

theorem showsNumber_unsignedZero {x : Float} (defined : Decimal.isUndefined x = false) :
    ShowsNumber x (.number (Decimal.unsignedZero x)) := by
  have same := Decimal.isFinite_unsignedZero x
  unfold ShowsNumber
  split
  · rename_i finite
    rw [finite] at same
    exact ⟨_, if_pos same, Decimal.isSame_unsignedZero defined⟩
  · rename_i infinite
    rw [← same] at infinite
    exact if_neg infinite

theorem restores_of_keeps {now : Int} {product : NewProduct} {entry : Store.Entry}
    {checked : Bool} (accepted : AcceptedBy checked product) (keeps : Keeps now product entry) :
    Restores now product entry.row := by
  obtain ⟨name, price, rating, company, featured, createdAt⟩ := keeps
  have shown := mem_project_all entry.row
  have shownPrice : (.price, .number entry.row.price) ∈ entry.row.project Field.all := shown .price
  have shownRating : (.rating, .number entry.row.rating) ∈ entry.row.project Field.all :=
    shown .rating
  rw [price] at shownPrice
  rw [rating] at shownRating
  refine ⟨name, company, featured, ?_, ?_, createdAt, ?_, ?_, ?_, ?_, ?_⟩
  · rw [price]
    exact Decimal.isSame_unsignedZero accepted.price
  · rw [rating]
    exact Decimal.isSame_unsignedZero accepted.rating
  · rw [← name]
    exact shown .name
  · rw [← company]
    exact shown .company
  · rw [← featured]
    exact shown .featured
  · exact ⟨_, shownPrice, showsNumber_unsignedZero accepted.price⟩
  · exact ⟨_, shownRating, showsNumber_unsignedZero accepted.rating⟩

theorem newEntries_restore (now : Int) (lastId : Nat) {products : List NewProduct} {checked : Bool}
    (accepted : ∀ product ∈ products, AcceptedBy checked product) :
    List.Forall₂ (Restores now) products ((newEntries now lastId products).map (·.row)) := by
  rw [List.forall₂_map_right_iff]
  have kept := (List.forall₂_and_left (p := (AcceptedBy checked ·)) _ _).mpr
    ⟨accepted, Store.newEntries_keep now products lastId⟩
  exact kept.imp fun product entry each => restores_of_keeps each.1 each.2

/-- The rows of the products that were given without a time. -/
def undated (products : List NewProduct) (added : List Row) : List Row :=
  ((products.zip added).filter fun pair => pair.1.createdAt = none).map (·.2)

theorem undated_sublist {products : List NewProduct} {added : List Row}
    (same : added.length = products.length) : (undated products added).Sublist added := by
  have all : (products.zip added).map (·.2) = added := List.map_snd_zip (Nat.le_of_eq same)
  have chosen : (undated products added).Sublist ((products.zip added).map (·.2)) :=
    List.filter_sublist.map _
  rwa [all] at chosen

theorem undated_time {now : Int} {products : List NewProduct} {added : List Row}
    (restores : List.Forall₂ (Restores now) products added) :
    ∀ row ∈ undated products added, row.createdAt = now := by
  intro row member
  obtain ⟨⟨product, _⟩, among, rfl⟩ := List.mem_map.mp member
  obtain ⟨paired, absent⟩ := List.mem_filter.mp among
  have restored := (List.forall₂_iff_zip.mp restores).2 paired
  rw [restored.createdAt, of_decide_eq_true absent]
  rfl

theorem undated_listed {now : Int} {products : List NewProduct} {earlier added : List Row}
    (restores : List.Forall₂ (Restores now) products added) :
    (undated products added).Sublist (oldestFirst (earlier ++ added)) := by
  -- they all have the time of the load, so there is nothing between them to be sorted
  have times := undated_time restores
  apply Store.sublist_oldestFirst
  · have among := undated_sublist restores.length_eq.symm
    exact among.trans (List.sublist_append_right earlier added)
  · apply List.pairwise_of_forall_mem_list
    intro left leftMember right rightMember
    rw [times left leftMember, times right rightMember]

theorem browse_complete {connection : Connection} (ordered : connection.database.Ordered)
    (isOpen : connection.isOpen = true) {limit : Option UInt32} (some_product : limit ≠ some 0)
    {pages : Nat} (representable : pages < UInt32.size)
    (enough : (oldestFirst connection.database.rows).length ≤ pages * (limit.getD 10).toNat) :
    browse limit pages connection =
      (.ok ((oldestFirst connection.database.rows).map (·.project Field.all)), connection) := by
  rw [browse_eq ordered isOpen some_product representable, List.take_of_length_le enough]

theorem browse_widest {connection : Connection} (ordered : connection.database.Ordered)
    (isOpen : connection.isOpen = true) :
    browse (some widest) widest.toNat connection =
      (.ok ((oldestFirst connection.database.rows).map (·.project Field.all)), connection) := by
  have few := ordered.identified.length_le
  rw [← List.length_map (·.row), Database.rows_entries,
    ← (Store.oldestFirst_perm _).length_eq] at few
  apply browse_complete ordered isOpen (by decide) widest.toNat_lt
  exact Nat.le_trans few (by decide)

/-- A load that succeeds adds the products of the list, in order, behind those that were kept. Who
pages through the catalog, with pages of whatever size, finds all of them by age: the sequence is
the stable order by time of the products as they are stored, those that were loaded without a time
having the time of the load. Every product is shown with the name, the company, the flag and the
numbers that were given, but infinity is shown as null. -/
theorem load_listed (now : Int) (products : List NewProduct) (keep : Bool)
    (before after : Connection) (count : Nat) (ordered : before.database.Ordered)
    (loaded : load now products keep before = (.ok count, after)) :
    count = products.length ∧ after.database.Ordered ∧
    ∃ added : List Row,
      after.database.rows = (if keep then before.database.rows else []) ++ added ∧
      List.Forall₂ (Restores now) products added ∧
      let sequence := oldestFirst after.database.rows
      ByAge after.database.rows sequence ∧
      (undated products added).Sublist sequence ∧
      list {} after = (.ok (shownPage after.database.rows 1 10), after) ∧
      (∀ limit ≠ some 0,
        (∀ number ≠ 0, list (pageOf number limit) after =
          (.ok (shownPage after.database.rows number (limit.getD 10)), after)) ∧
        ∀ pages < UInt32.size, sequence.length ≤ pages * (limit.getD 10).toNat →
          browse limit pages after = (.ok (sequence.map (·.project Field.all)), after)) ∧
      ∃ limit pages, browse limit pages after =
        (.ok (sequence.map (·.project Field.all)), after) := by
  obtain ⟨total, isOpen, afterOrdered, lastId, checked, rows, accepted⟩ :=
    load_succeeded loaded ordered
  have restores := newEntries_restore now lastId accepted
  refine ⟨total, afterOrdered, _, rows, restores, Store.oldestFirst_byAge _, ?_,
    execute_all afterOrdered isOpen 1 10, ?_, ⟨_, _, browse_widest afterOrdered isOpen⟩⟩
  · rw [rows]
    exact undated_listed restores
  · intro limit some_product
    constructor
    · intro number positive
      exact list_pageOf afterOrdered isOpen positive some_product
    · intro pages representable enough
      exact browse_complete afterOrdered isOpen some_product representable enough

def furniture : List NewProduct :=
  [{ name := "Chair", price := 30.0, company := "ikea" },
    { name := "Stool", price := -0.0, company := "liddy", createdAt := some (-1) },
    { name := "Bench", price := 80.0, company := "marcos", featured := true }]

theorem lampStore_ordered : lampStore.database.Ordered :=
  ⟨_, rfl, by decide, by decide, by decide⟩

/-- A lamp of time 0 is kept, and the furniture is loaded at time 7. -/
theorem load_listed_furniture :
    ∃ after added, load 7 furniture true lampStore = (.ok 3, after) ∧
      after.database.rows = lampStore.database.rows ++ added ∧
      List.Forall₂ (Restores 7) furniture added ∧
      browse (some 2) 2 after =
        (.ok ((oldestFirst after.database.rows).map (·.project Field.all)), after) := by
  have loaded : load 7 furniture true lampStore =
      (.ok 3, (load 7 furniture true lampStore).2) := by rfl
  obtain ⟨_, _, added, rows, restores, _, _, _, pages, _⟩ :=
    load_listed 7 furniture true lampStore _ 3 lampStore_ordered loaded
  refine ⟨_, added, loaded, rows, restores, (pages (some 2) (by decide)).2 2 (by decide) ?_⟩
  rw [(Store.oldestFirst_perm _).length_eq]
  decide

def priceless : NewProduct :=
  { name := "Vase", price := Decimal.infinity, company := "ikea" }

/-- An infinite price is accepted, but no number is shown for it. -/
theorem load_not_shown :
    ¬∀ (now : Int) (products : List NewProduct) (before after : Connection) (count : Nat),
      before.database.Ordered → load now products false before = (.ok count, after) →
      ∀ listing, list {} after = (.ok listing, after) →
        ∀ record ∈ listing.records, ∃ product ∈ products, ∃ shown y,
          (.price, shown) ∈ record ∧ shownNumber? shown = some y ∧
            Decimal.isSame y product.price = true := by
  intro all
  have loaded : load 0 [priceless] false lampStore =
      (.ok 1, (load 0 [priceless] false lampStore).2) := by rfl
  have listed := execute_all (load_succeeded loaded lampStore_ordered).2.2.1 rfl 1 10
  have rows : (load 0 [priceless] false lampStore).2.database.rows =
      [Store.newRow 2 0 priceless] := rfl
  have records : (shownPage [Store.newRow 2 0 priceless] 1 10).records =
      [(Store.newRow 2 0 priceless).project Field.all] := by
    simp [shownPage, oldestFirst]
  rw [rows] at listed
  obtain ⟨_, _, _, _, member, number, _⟩ := all 0 [priceless] lampStore _ 1 lampStore_ordered loaded
    _ listed _ (records ▸ List.mem_singleton_self _)
  obtain ⟨_, _, same⟩ := List.mem_map.mp member
  cases same
  cases number

end ProductCatalog.Catalog
