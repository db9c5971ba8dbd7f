import ProductCatalog.Catalog.SeedFile
import ProductCatalog.Proofs.Catalog.Limits
import ProductCatalog.Proofs.Product.NewProduct

/-! What a store makes of the products in a file. The file is checked before, and the table checks
again. Both count the characters of a name, but the table only those before the first U+0000; all
else that the table requires is certain for a product that was read and checked. -/

namespace ProductCatalog.Catalog

open Store (Connection Entry Refusal)

theorem productsOfNode_defined {node : Json.Node} {products : List NewProduct}
    (read : productsOfNode node = .ok products) : ∀ product ∈ products, product.Defined := by
  unfold productsOfNode at read
  split at read
  · obtain ⟨others, found, ended⟩ := bind_eq_ok read
    obtain ⟨_, _, made⟩ := bind_eq_ok ended
    cases made
    exact mapM_forall (fun _ _ => NewProduct.ofNode_defined) found
  · cases read

theorem checkProducts_eq_ok {index : Nat} {products : List NewProduct}
    (checked : checkProducts index products = .ok ()) :
    ∀ product ∈ products, product.violations = [] := by
  induction products generalizing index with
  | nil => exact List.forall_mem_nil _
  | cons product rest ih =>
      rw [checkProducts] at checked
      split at checked
      · rename_i valid
        exact List.forall_mem_cons.mpr ⟨valid, ih checked⟩
      · cases checked

/-- The products of a file that is accepted are valid, and their numbers are numbers. -/
theorem readSeedFile_valid {files : Files.Tree} {current path : Files.Path}
    {products : List NewProduct} (read : readSeedFile files current path = .ok products) :
    ∀ product ∈ products, product.violations = [] ∧ product.Defined := by
  obtain ⟨text, _, rest⟩ := bind_eq_ok read
  obtain ⟨found, decoded, later⟩ := bind_eq_ok rest
  obtain ⟨_, checked, returned⟩ := bind_eq_ok later
  cases returned
  obtain ⟨value, valueRead, ended⟩ := bind_eq_ok (mapError_eq_ok decoded)
  have same : value = products := by
    split at ended
    · cases ended
    · exact Except.ok.inj ended
  intro product member
  exact ⟨checkProducts_eq_ok checked product member,
    productsOfNode_defined (same ▸ valueRead) product member⟩

/-- The name begins with U+0000, before which a table sees nothing of it. -/
def IsHidden (name : String) : Prop :=
  name.toList.head? = some '\u0000'

instance (name : String) : Decidable (IsHidden name) :=
  inferInstanceAs (Decidable (name.toList.head? = some '\u0000'))

theorem countedLength_eq_zero_iff {name : String} (some_text : 1 ≤ name.length) :
    Store.countedLength name = 0 ↔ IsHidden name := by
  rw [← String.length_toList] at some_text
  unfold Store.countedLength Text.Like.visible IsHidden
  cases text : name.toList with
  | nil => simp [text] at some_text
  | cons c rest =>
      by_cases hidden : c = '\u0000'
      · simp [hidden]
      · simp [hidden]

theorem countedLength_le (name : String) : Store.countedLength name ≤ name.length := by
  rw [← String.length_toList]
  exact (List.takeWhile_prefix _).length_le

theorem violations_eq_nil_iff (product : NewProduct) :
    product.violations = [] ↔ product.company ∈ companies ∧
      (1 ≤ product.name.length ∧ product.name.length ≤ 100) ∧
      Decimal.isLess product.price 0.0 = false := by
  unfold NewProduct.violations checkCompany checkName checkPrice
  simp only [List.append_eq_nil_iff, ite_eq_left_iff, ite_eq_right_iff, List.cons_ne_nil, imp_false,
    not_not, and_assoc, Bool.not_eq_true]

/-- A table has nothing against a product that is valid but that it sees nothing of its name, or
that there is no room for it. -/
theorem refusal_of_valid {product : NewProduct} (valid : product.violations = [])
    (defined : product.Defined) {checked : Bool} {lastId : Nat} {refusal : Refusal}
    (refused : Store.refusal? checked lastId product = some refusal) :
    refusal = .nameLength ∨ refusal = .full ∧ Store.maxId ≤ lastId := by
  obtain ⟨company, _, _⟩ := (violations_eq_nil_iff product).mp valid
  unfold Store.refusal? at refused
  split_ifs at refused with full price rating unchecked length
  · cases refused
    exact Or.inr ⟨rfl, full⟩
  · exact absurd price (by simp [defined.price])
  · exact absurd rating (by simp [defined.rating])
  · cases refused
    exact Or.inl rfl

theorem firstRefusal_of_valid {products : List NewProduct}
    (valid : ∀ product ∈ products, product.violations = [] ∧ product.Defined) {checked : Bool}
    {lastId : Nat} {refusal : Refusal}
    (refused : Store.firstRefusal? checked lastId products = some refusal) :
    refusal = .nameLength ∨ refusal = .full ∧ Store.maxId < lastId + products.length := by
  obtain ⟨product, member, id, _, below, cause⟩ := Store.firstRefusal_eq_some refused
  obtain ⟨passes, defined⟩ := valid product member
  rcases refusal_of_valid passes defined cause with length | ⟨full, beyond⟩
  · exact Or.inl length
  · exact Or.inr ⟨full, by omega⟩

theorem acceptedBy_iff_of_valid {product : NewProduct} (valid : product.violations = [])
    (defined : product.Defined) (checked : Bool) :
    Store.AcceptedBy checked product ↔ (checked = true → ¬IsHidden product.name) := by
  obtain ⟨company, ⟨some_text, short⟩, _⟩ := (violations_eq_nil_iff product).mp valid
  have counted := countedLength_le product.name
  have hidden := countedLength_eq_zero_iff some_text
  constructor
  · intro accepted isChecked
    have seen := (accepted.nameLength isChecked).1
    rw [← hidden]
    omega
  · intro shown
    refine ⟨defined.price, defined.rating, ?_, fun _ => company⟩
    intro isChecked
    have seen : Store.countedLength product.name ≠ 0 := mt hidden.mp (shown isChecked)
    omega

theorem insertAll_ready (now : Int) (products : List NewProduct) (entries : List Entry)
    (lastId : Nat) (checked : Bool) :
    Store.insertAll now products (ready entries lastId checked) =
      match Store.firstRefusal? checked lastId products with
      | some refusal => (.error (.ofRefusal refusal), ready entries lastId checked)
      | none => (.ok products.length,
          ready (entries ++ Store.newEntries now lastId products) (lastId + products.length)
            checked) := by
  simp only [Store.insertAll, Store.change, ready, Store.insertAll_folded, if_true]
  cases Store.firstRefusal? checked lastId products <;> rfl

/-- A store with room for the products of a file that was accepted adds all of them, unless the
table is checked and some name begins with U+0000. Then it refuses them all for the length of that
name and stays as it is. -/
theorem seed_inserted {files : Files.Tree} {current path : Files.Path} {products : List NewProduct}
    (read : readSeedFile files current path = .ok products) (now : Int) (entries : List Entry)
    {lastId : Nat} (known : lastId ≤ Store.maxId) (checked : Bool) :
    let room := lastId + products.length ≤ Store.maxId
    let shown := checked = true → ∀ product ∈ products, ¬IsHidden product.name
    let inserted := Store.insertAll now products (ready entries lastId checked)
    (∀ product ∈ products, product.violations = []) ∧
    (room → shown → inserted = (.ok products.length,
      ready (entries ++ Store.newEntries now lastId products) (lastId + products.length)
        checked)) ∧
    (room → ¬shown → inserted = (.error (.ofRefusal .nameLength), ready entries lastId checked)) ∧
    (¬room → ∃ refusal, (refusal = .full ∨ refusal = .nameLength) ∧
      inserted = (.error (.ofRefusal refusal), ready entries lastId checked)) := by
  intro room shown inserted
  have valid := readSeedFile_valid read
  have accepted_iff : Store.firstRefusal? checked lastId products = none ↔ room ∧ shown := by
    rw [Store.firstRefusal_eq_none_iff_acceptedBy checked products lastId known]
    apply and_congr_right
    intro _
    constructor
    · intro accepted isChecked product member
      obtain ⟨passes, defined⟩ := valid product member
      exact (acceptedBy_iff_of_valid passes defined checked).mp (accepted product member) isChecked
    · intro each product member
      obtain ⟨passes, defined⟩ := valid product member
      exact (acceptedBy_iff_of_valid passes defined checked).mpr fun isChecked =>
        each isChecked product member
  have outcome : inserted = _ := insertAll_ready now products entries lastId checked
  refine ⟨fun product member => (valid product member).1, ?_, ?_, ?_⟩
  · intro fits each
    rw [outcome, accepted_iff.mpr ⟨fits, each⟩]
  · intro fits hidden
    cases refused : Store.firstRefusal? checked lastId products with
    | none => exact absurd (accepted_iff.mp refused).2 hidden
    | some refusal =>
        rw [outcome, refused]
        rcases firstRefusal_of_valid valid refused with rfl | ⟨_, beyond⟩
        · rfl
        · exact absurd fits (by omega)
  · intro crowded
    cases refused : Store.firstRefusal? checked lastId products with
    | none => exact absurd (accepted_iff.mp refused).1 crowded
    | some refusal =>
        refine ⟨refusal, ?_, by rw [outcome, refused]⟩
        rcases firstRefusal_of_valid valid refused with length | ⟨full, _⟩
        · exact Or.inr length
        · exact Or.inl full

def seedTree (text : String) : Files.Tree :=
  ⟨[(["seed.json"], .file (Text.Utf8.encode text.toList))]⟩

def crate : NewProduct :=
  { name := "Crate", price := 5.0, company := "liddy" }

def crateText : String :=
  "[\x7b\"name\": \"Crate\", \"price\": 5.0, \"company\": \"liddy\"\x7d]"

theorem seed_inserted_crate :
    Store.insertAll 0 [crate] (ready [] 0 true) =
      (.ok 1, ready [Store.newEntry 1 0 crate] 1 true) := by
  have read : readSeedFile (seedTree crateText) .root ⟨"seed.json"⟩ = .ok [crate] :=
    toOption_eq_some (by decide +kernel)
  obtain ⟨_, inserted, _⟩ := seed_inserted read 0 [] (Nat.zero_le _) true
  exact inserted (by decide) (by decide)

def hiddenCrate : NewProduct :=
  { crate with name := "\x00Crate" }

def hiddenCrateText : String :=
  "[\x7b\"name\": \"\\u0000Crate\", \"price\": 5.0, \"company\": \"liddy\"\x7d]"

/-- A name that begins with U+0000 passes the check of the file, but not that of the table. -/
theorem seed_not_inserted :
    readSeedFile (seedTree hiddenCrateText) .root ⟨"seed.json"⟩ = .ok [hiddenCrate] ∧
    Store.insertAll 0 [hiddenCrate] (ready [] 0 true) =
      (.error (.ofRefusal .nameLength), ready [] 0 true) := by
  constructor
  · exact toOption_eq_some (by decide +kernel)
  · rw [insertAll_ready]
    rfl

end ProductCatalog.Catalog
