import ProductCatalog.Proofs.Catalog.SeedFile
import ProductCatalog.Proofs.Product.Record
import ProductCatalog.Proofs.Store.History

/-! Products that were listed and are added again. Nothing of a product is lost on the way but its
identity. -/

namespace ProductCatalog.Catalog

open Store (Connection Entry Acceptable)

theorem acceptable_of_accepted {products : List NewProduct} {lastId : Nat}
    (accepted : Store.firstRefusal? true lastId products = none) :
    ∀ product ∈ products, Acceptable product := by
  induction products generalizing lastId with
  | nil => simp
  | cons first rest ih =>
      rw [Store.firstRefusal?] at accepted
      cases refused : Store.refusal? true lastId first with
      | some refusal =>
          rw [refused] at accepted
          cases accepted
      | none =>
          rw [refused] at accepted
          intro product member
          rcases List.mem_cons.mp member with rfl | member
          · exact (Store.acceptedBy_true_iff product).mp
              ((Store.refusal_eq_none_iff true lastId product).mp refused).2
          · exact ih accepted product member

/-- What an insert has put behind the products that were there is sound. -/
theorem sound_of_inserted {now : Int} {products : List NewProduct} {entries added : List Entry}
    {lastId count : Nat} {after : Connection}
    (inserted : Store.insertAll now products (Store.openOn entries lastId) = (.ok count, after))
    (behind : after.database.entries = entries ++ added) : ∀ entry ∈ added, entry.Sound := by
  rw [Store.insertAll_open] at inserted
  cases accepted : Store.firstRefusal? true lastId products with
  | some refusal =>
      rw [accepted] at inserted
      cases inserted
  | none =>
      rw [accepted] at inserted
      cases inserted
      have same : entries ++ Store.newEntries now lastId products = entries ++ added := behind
      obtain rfl := List.append_cancel_left same
      intro entry member
      obtain ⟨id, product, belongs, rfl⟩ := Store.mem_newEntries now products lastId member
      exact (acceptable_of_accepted accepted product belongs).newEntry_sound id now

theorem acceptable_toNewProduct {entry : Entry} (sound : entry.Sound) :
    Acceptable entry.row.toNewProduct :=
  ⟨sound.price, sound.rating, sound.nameLength, sound.company⟩

/-- The same product but for its identity, its numbers compared as numbers. -/
structure IsCopy (copy original : Entry) : Prop where
  name : copy.row.name = original.row.name
  foldedName : copy.foldedName = original.foldedName
  company : copy.row.company = original.row.company
  featured : copy.row.featured = original.row.featured
  createdAt : copy.row.createdAt = original.row.createdAt
  price : Decimal.isSame copy.row.price original.row.price = true
  rating : Decimal.isSame copy.row.rating original.row.rating = true

theorem isCopy_newEntry {entry : Entry} (sound : entry.Sound) (id : Nat) (now : Int) :
    IsCopy (Store.newEntry id now entry.row.toNewProduct) entry where
  name := rfl
  foldedName := sound.foldedName.symm
  company := rfl
  featured := rfl
  createdAt := rfl
  price := Decimal.isSame_unsignedZero sound.price
  rating := Decimal.isSame_unsignedZero sound.rating

/-- What is shown of a product that an insert has stored is read as a valid product, and adding that
makes another product like it wherever there is room for one. The name must be of the length that
products in files may have, the price no less than zero, the instant in the calendar, and both
numbers finite and read back from their text, if finite numbers are. -/
theorem record_reseeded {now : Int} {products : List NewProduct} {entries added : List Entry}
    {lastId count : Nat} {after : Connection}
    (inserted : Store.insertAll now products (Store.openOn entries lastId) = (.ok count, after))
    (behind : after.database.entries = entries ++ added) {entry : Entry} (member : entry ∈ added)
    (name : 1 ≤ entry.row.name.length ∧ entry.row.name.length ≤ 100)
    (price : Decimal.isFinite entry.row.price = true ∧
      Decimal.isLess entry.row.price 0.0 = false)
    (rating : Decimal.isFinite entry.row.rating = true)
    (time : (Time.writeInstant? entry.row.createdAt).isSome = true)
    (read_back : ∀ x ∈ [entry.row.price, entry.row.rating], Decimal.isFinite x = true →
      Json.IsReadBack x) :
    ∃ product,
      NewProduct.ofJson (Record.toJson (entry.row.project Field.all)).toText = .ok product ∧
      product.violations = [] ∧
      ∀ later others otherId checked, otherId < Store.maxId →
        ∃ copy, Store.insertAll later [product] (ready others otherId checked) =
            (.ok 1, ready (others ++ [copy]) (otherId + 1) checked) ∧
          copy.row.id = ((otherId + 1 : Nat) : Int) ∧ IsCopy copy entry := by
  have sound := sound_of_inserted inserted behind entry member
  obtain ⟨text, written⟩ := Option.isSome_iff_exists.mp time
  have read := NewProduct.ofJson_record written (read_back _ (by simp) price.1)
    (read_back _ (by simp) rating)
  refine ⟨entry.row.toNewProduct, read, ?_, ?_⟩
  · rw [violations_eq_nil_iff]
    exact ⟨sound.company, name, price.2⟩
  · intro later others otherId checked room
    have accepted : Store.firstRefusal? checked otherId [entry.row.toNewProduct] = none := by
      rw [Store.firstRefusal_eq_none_iff_acceptedBy checked _ otherId (Nat.le_of_lt room)]
      exact ⟨room, by simpa using (acceptable_toNewProduct sound).acceptedBy checked⟩
    refine ⟨_, ?_, rfl, isCopy_newEntry sound (otherId + 1) later⟩
    rw [insertAll_ready, accepted]
    rfl

/-- A lantern from before the first year, with characters in its name that are escaped. -/
def lantern : NewProduct where
  name := "\"Läm\x01p\"\n"
  price := 12.5
  rating := 4.75
  company := "ikea"
  featured := true
  createdAt := some (-62198755200001)

theorem record_reseeded_lantern :
    ∃ product, NewProduct.ofJson
        (Record.toJson ((Store.newRow 8 0 lantern).project Field.all)).toText = .ok product ∧
      product.violations = [] ∧
      ∃ copy, Store.insertAll 0 [product] (ready [] 0 true) = (.ok 1, ready [copy] 1 true) ∧
        IsCopy copy (Store.newEntry 8 0 lantern) := by
  have inserted : Store.insertAll 0 [lantern] (Store.openOn [] 7) =
      (.ok 1, Store.openOn [Store.newEntry 8 0 lantern] 8) := rfl
  have read_back : ∀ x ∈ [(Store.newRow 8 0 lantern).price, (Store.newRow 8 0 lantern).rating],
      Decimal.isFinite x = true → Json.IsReadBack x := by
    intro x member _
    simp only [List.mem_cons, List.not_mem_nil, or_false] at member
    rcases member with rfl | rfl <;> exact toOption_eq_some (by decide +kernel)
  obtain ⟨product, read, valid, reseeded⟩ := record_reseeded inserted rfl List.mem_cons_self
    (by decide +kernel) (by decide +kernel) (by decide +kernel) (by decide +kernel) read_back
  obtain ⟨copy, stored, -, same⟩ := reseeded 0 [] 0 true (by decide)
  exact ⟨product, read, valid, copy, stored, same⟩

end ProductCatalog.Catalog
