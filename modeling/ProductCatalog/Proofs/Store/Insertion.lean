import Mathlib.Data.List.Basic
import Mathlib.Data.List.Forall2
import Mathlib.Tactic.SplitIfs
import ProductCatalog.Store.Connection

/-! What adding products leaves in a table with names in lowercase. A batch goes in as a whole, in
order and under the identities that follow the greatest one, or it is refused for the first reason
that the table meets and leaves everything as it was. -/

namespace ProductCatalog.Store

def upToDate (entries : List Entry) (lastId : Nat) : Database :=
  ⟨.number supportedVersion, some ⟨.folded entries, lastId, true⟩⟩

/-- The entries of new products, under the identities that follow `lastId`. -/
def newEntries (now : Int) (lastId : Nat) : List NewProduct → List Entry
  | [] => []
  | product :: rest => newEntry (lastId + 1) now product :: newEntries now (lastId + 1) rest

def firstRefusal? (checked : Bool) (lastId : Nat) : List NewProduct → Option Refusal
  | [] => none
  | product :: rest =>
    match refusal? checked lastId product with
    | some refusal => some refusal
    | none => firstRefusal? checked (lastId + 1) rest

theorem insertAll_folded (now : Int) (version : SchemaVersion) (checked : Bool)
    (products : List NewProduct) (entries : List Entry) (lastId : Nat) :
    Database.insertAll now ⟨version, some ⟨.folded entries, lastId, checked⟩⟩ products =
      match firstRefusal? checked lastId products with
      | some refusal => .error (.ofRefusal refusal)
      | none => .ok ⟨version, some ⟨.folded (entries ++ newEntries now lastId products),
          lastId + products.length, checked⟩⟩ := by
  induction products generalizing entries lastId with
  | nil => simp [Database.insertAll, firstRefusal?, newEntries, pure, Except.pure]
  | cons product rest ih =>
      simp only [Database.insertAll, List.foldlM_cons, firstRefusal?]
      cases refused : refusal? checked lastId product with
      | some refusal =>
          simp [Database.insert, Table.insert, refused, Except.map, bind, Except.bind]
      | none =>
          have first :
              Database.insert now ⟨version, some ⟨.folded entries, lastId, checked⟩⟩ product =
              .ok ⟨version, some ⟨.folded (entries ++ [newEntry (lastId + 1) now product]),
                lastId + 1, checked⟩⟩ := by
            simp [Database.insert, Table.insert, refused, Except.map]
          have others := ih (entries ++ [newEntry (lastId + 1) now product]) (lastId + 1)
          rw [first]
          simp only [bind, Except.bind]
          rw [Database.insertAll] at others
          rw [others]
          simp only [newEntries, List.append_assoc, List.singleton_append, List.length_cons,
            Nat.add_assoc, Nat.add_comm 1]

theorem insertAll_plain {database : Database} {rows : List Row} {lastId : Nat} {checked : Bool}
    (products : database.products = some ⟨.plain rows, lastId, checked⟩) (now : Int)
    {added : List NewProduct} (some_product : added ≠ []) :
    database.insertAll now added = .error (.ofRefusal .noPlaceForFoldedName) := by
  cases added with
  | nil => exact absurd rfl some_product
  | cons product rest =>
      simp only [Database.insertAll, List.foldlM_cons, Database.insert, products, Table.insert,
        Except.map, bind, Except.bind]

/-- What it takes to add products. No product can be added without a table, or to one that has no
names in lowercase. -/
theorem insertAll_cases {before after : Database} {now : Int} {products : List NewProduct}
    (inserted : before.insertAll now products = .ok after) :
    products = [] ∧ after = before ∨
      ∃ entries lastId checked, before.products = some ⟨.folded entries, lastId, checked⟩ ∧
        firstRefusal? checked lastId products = none ∧
        after.products = some ⟨.folded (entries ++ newEntries now lastId products),
          lastId + products.length, checked⟩ := by
  obtain ⟨version, _ | ⟨rows | entries, lastId, checked⟩⟩ := before
  · cases products with
    | nil =>
        cases inserted
        exact Or.inl ⟨rfl, rfl⟩
    | cons product rest => cases inserted
  · by_cases nothing : products = []
    · subst nothing
      cases inserted
      exact Or.inl ⟨rfl, rfl⟩
    · rw [insertAll_plain rfl now nothing] at inserted
      cases inserted
  · rw [insertAll_folded] at inserted
    cases accepted : firstRefusal? checked lastId products with
    | some refusal =>
        rw [accepted] at inserted
        cases inserted
    | none =>
        rw [accepted] at inserted
        cases inserted
        exact Or.inr ⟨entries, lastId, checked, rfl, accepted, rfl⟩

/-- What a checked table requires of a product. -/
structure Acceptable (product : NewProduct) : Prop where
  price : Decimal.isUndefined product.price = false
  rating : Decimal.isUndefined product.rating = false
  nameLength : 1 ≤ countedLength product.name ∧ countedLength product.name ≤ 100
  company : product.company ∈ companies

/-- What a table requires of a product. One that was made without checks looks at neither names nor
companies. -/
structure AcceptedBy (checked : Bool) (product : NewProduct) : Prop where
  price : Decimal.isUndefined product.price = false
  rating : Decimal.isUndefined product.rating = false
  nameLength : checked → 1 ≤ countedLength product.name ∧ countedLength product.name ≤ 100
  company : checked → product.company ∈ companies

theorem Acceptable.acceptedBy {product : NewProduct} (acceptable : Acceptable product)
    (checked : Bool) : AcceptedBy checked product :=
  ⟨acceptable.price, acceptable.rating, fun _ => acceptable.nameLength,
    fun _ => acceptable.company⟩

theorem acceptedBy_true_iff (product : NewProduct) : AcceptedBy true product ↔ Acceptable product :=
  ⟨fun accepted => ⟨accepted.price, accepted.rating, accepted.nameLength rfl,
    accepted.company rfl⟩, fun acceptable => acceptable.acceptedBy true⟩

theorem refusal_eq_none_iff (checked : Bool) (lastId : Nat) (product : NewProduct) :
    refusal? checked lastId product = none ↔ lastId < maxId ∧ AcceptedBy checked product := by
  constructor
  · intro accepted
    unfold refusal? at accepted
    split_ifs at accepted with full price rating unchecked length company
    · refine ⟨by omega, by simpa using price, by simpa using rating, ?_, ?_⟩ <;>
        exact fun isChecked => absurd unchecked (by simp [isChecked])
    · exact ⟨by omega, by simpa using price, by simpa using rating, fun _ => by omega,
        fun _ => by simpa using company⟩
  · rintro ⟨room, price, rating, length, company⟩
    have roomy : ¬maxId ≤ lastId := by omega
    cases checked with
    | false => simp [refusal?, roomy, price, rating]
    | true =>
        have counted := length rfl
        simp only [refusal?, roomy, price, rating, company rfl, not_true, Bool.not_true,
          Bool.false_eq_true, if_false, ite_eq_right_iff, reduceCtorEq, imp_false]
        omega

theorem firstRefusal_eq_none_iff_acceptedBy (checked : Bool) (products : List NewProduct)
    (lastId : Nat) (room : lastId ≤ maxId) :
    firstRefusal? checked lastId products = none ↔
      lastId + products.length ≤ maxId ∧ ∀ product ∈ products, AcceptedBy checked product := by
  induction products generalizing lastId with
  | nil => simpa [firstRefusal?] using room
  | cons product rest ih =>
      simp only [firstRefusal?, List.length_cons, List.forall_mem_cons]
      cases refused : refusal? checked lastId product with
      | some refusal =>
          have rejected : ¬(lastId < maxId ∧ AcceptedBy checked product) := by
            rw [← refusal_eq_none_iff, refused]
            simp
          simp only [reduceCtorEq, false_iff]
          rintro ⟨fits, accepted, _⟩
          exact rejected ⟨by omega, accepted⟩
      | none =>
          obtain ⟨below, accepted⟩ := (refusal_eq_none_iff checked lastId product).mp refused
          simp only [ih (lastId + 1) below, accepted, true_and]
          constructor
          · rintro ⟨fits, others⟩
            exact ⟨by omega, others⟩
          · rintro ⟨fits, others⟩
            exact ⟨by omega, others⟩

theorem firstRefusal_eq_none_iff (products : List NewProduct) (lastId : Nat)
    (room : lastId ≤ maxId) :
    firstRefusal? true lastId products = none ↔
      lastId + products.length ≤ maxId ∧ ∀ product ∈ products, Acceptable product := by
  simp only [firstRefusal_eq_none_iff_acceptedBy true products lastId room, acceptedBy_true_iff]

theorem firstRefusal_eq_some {checked : Bool} {products : List NewProduct} {lastId : Nat}
    {refusal : Refusal} (refused : firstRefusal? checked lastId products = some refusal) :
    ∃ product ∈ products, ∃ id, lastId ≤ id ∧ id < lastId + products.length ∧
      refusal? checked id product = some refusal := by
  induction products generalizing lastId with
  | nil => cases refused
  | cons product rest ih =>
      rw [firstRefusal?] at refused
      cases first : refusal? checked lastId product with
      | some cause =>
          rw [first] at refused
          cases refused
          refine ⟨product, List.mem_cons_self, lastId, Nat.le_refl lastId, ?_, first⟩
          rw [List.length_cons]
          omega
      | none =>
          rw [first] at refused
          obtain ⟨other, member, id, above, below, cause⟩ := ih refused
          refine ⟨other, List.mem_cons_of_mem product member, id, by omega, ?_, cause⟩
          rw [List.length_cons]
          omega

/-- An entry keeps what was given of a product, its zeros without a sign and the present in place
of a time that is absent. -/
structure Keeps (now : Int) (product : NewProduct) (entry : Entry) : Prop where
  name : entry.row.name = product.name
  price : entry.row.price = Decimal.unsignedZero product.price
  rating : entry.row.rating = Decimal.unsignedZero product.rating
  company : entry.row.company = product.company
  featured : entry.row.featured = product.featured
  createdAt : entry.row.createdAt = product.createdAt.getD now

theorem newEntries_keep (now : Int) (products : List NewProduct) (lastId : Nat) :
    List.Forall₂ (Keeps now) products (newEntries now lastId products) := by
  induction products generalizing lastId with
  | nil => exact List.Forall₂.nil
  | cons product rest ih => exact List.Forall₂.cons ⟨rfl, rfl, rfl, rfl, rfl, rfl⟩ (ih (lastId + 1))

theorem newEntries_bounds (now : Int) (products : List NewProduct) (lastId : Nat) :
    ∀ entry ∈ newEntries now lastId products,
      (lastId : Int) < entry.row.id ∧ entry.row.id ≤ (lastId + products.length : Nat) := by
  induction products generalizing lastId with
  | nil => simp [newEntries]
  | cons product rest ih =>
      simp only [newEntries, List.forall_mem_cons, List.length_cons]
      constructor
      · constructor
        · change (lastId : Int) < (lastId + 1 : Nat)
          omega
        · change ((lastId + 1 : Nat) : Int) ≤ (lastId + (rest.length + 1) : Nat)
          omega
      · intro entry member
        have bounds := ih (lastId + 1) entry member
        omega

theorem newEntries_increasing (now : Int) (products : List NewProduct) (lastId : Nat) :
    ((newEntries now lastId products).map (·.row.id)).Pairwise (· < ·) := by
  induction products generalizing lastId with
  | nil => exact List.Pairwise.nil
  | cons product rest ih =>
      rw [newEntries, List.map_cons]
      apply List.Pairwise.cons _ (ih (lastId + 1))
      intro id member
      obtain ⟨entry, belongs, rfl⟩ := List.mem_map.mp member
      exact (newEntries_bounds now rest (lastId + 1) entry belongs).1

/-- New products continue a table whose identities increase up to `lastId`. -/
theorem append_newEntries_increasing {entries : List Entry} {lastId : Nat}
    (increasing : (entries.map (·.row.id)).Pairwise (· < ·))
    (bounds : ∀ entry ∈ entries, 0 < entry.row.id ∧ entry.row.id ≤ lastId) (now : Int)
    (products : List NewProduct) :
    ((entries ++ newEntries now lastId products).map (·.row.id)).Pairwise (· < ·) ∧
      ∀ entry ∈ entries ++ newEntries now lastId products,
        0 < entry.row.id ∧ entry.row.id ≤ (lastId + products.length : Nat) := by
  constructor
  · rw [List.map_append, List.pairwise_append]
    refine ⟨increasing, newEntries_increasing now products lastId, ?_⟩
    intro old oldMember new newMember
    obtain ⟨oldEntry, oldBelongs, rfl⟩ := List.mem_map.mp oldMember
    obtain ⟨newEntry, newBelongs, rfl⟩ := List.mem_map.mp newMember
    have below := (bounds oldEntry oldBelongs).2
    have above := (newEntries_bounds now products lastId newEntry newBelongs).1
    omega
  · intro entry member
    rcases List.mem_append.mp member with old | new
    · have bound := bounds entry old
      omega
    · have bound := newEntries_bounds now products lastId entry new
      omega

theorem mem_newEntries (now : Int) (products : List NewProduct) (lastId : Nat) {entry : Entry}
    (member : entry ∈ newEntries now lastId products) :
    ∃ id, ∃ product ∈ products, entry = newEntry id now product := by
  induction products generalizing lastId with
  | nil => simp [newEntries] at member
  | cons product rest ih =>
      rw [newEntries, List.mem_cons] at member
      rcases member with first | later
      · exact ⟨lastId + 1, product, by simp, first⟩
      · obtain ⟨id, other, belongs, same⟩ := ih (lastId + 1) later
        exact ⟨id, other, by simp [belongs], same⟩

end ProductCatalog.Store
