import ProductCatalog.Proofs.Catalog.SeedFile

/-! Which products a seed file gives: all that it lists or none. Where one of them is invalid, the
first that is so is named. -/

namespace ProductCatalog.Catalog

/-- What is required of a product in a file. -/
structure IsValid (product : NewProduct) : Prop where
  company : product.company ∈ companies
  nameLength : 1 ≤ product.name.length ∧ product.name.length ≤ 100
  price : Decimal.isLess product.price 0.0 = false

theorem isValid_iff (product : NewProduct) : IsValid product ↔ product.violations = [] := by
  rw [violations_eq_nil_iff]
  constructor
  · rintro ⟨company, nameLength, price⟩
    exact ⟨company, nameLength, price⟩
  · rintro ⟨company, nameLength, price⟩
    exact ⟨company, nameLength, price⟩

/-- The product at a position is invalid, and all before it are valid. -/
structure FirstInvalid (products : List NewProduct) (index : Nat) (product : NewProduct) :
    Prop where
  there : products[index]? = some product
  invalid : ¬IsValid product
  least : ∀ earlier < index, ∀ other, products[earlier]? = some other → IsValid other

theorem firstInvalid_cons_of_valid {first : NewProduct} {rest : List NewProduct}
    (valid : IsValid first) {index : Nat} {product : NewProduct} :
    FirstInvalid (first :: rest) index product ↔
      ∃ position, index = position + 1 ∧ FirstInvalid rest position product := by
  constructor
  · rintro ⟨there, invalid, least⟩
    cases index with
    | zero =>
        cases there
        exact absurd valid invalid
    | succ position =>
        refine ⟨position, rfl, there, invalid, ?_⟩
        intro earlier before other found
        exact least (earlier + 1) (Nat.succ_lt_succ before) other found
  · rintro ⟨position, rfl, there, invalid, least⟩
    refine ⟨there, invalid, ?_⟩
    intro earlier before other found
    cases earlier with
    | zero =>
        cases found
        exact valid
    | succ earlier => exact least earlier (Nat.lt_of_succ_lt_succ before) other found

/-- The check ends at the first product that is invalid, and names it by its position. -/
theorem checkProducts_eq_error_iff (products : List NewProduct) (start : Nat) (fault : SeedFault) :
    checkProducts start products = .error fault ↔
      ∃ index product, FirstInvalid products index product ∧
        fault = .invalid (start + index) product := by
  induction products generalizing start with
  | nil =>
      constructor
      · rintro ⟨⟩
      · rintro ⟨index, product, ⟨⟨⟩, _, _⟩, _⟩
  | cons first rest ih =>
      rw [checkProducts]
      by_cases valid : IsValid first
      · rw [if_pos ((isValid_iff first).mp valid), ih]
        simp only [firstInvalid_cons_of_valid valid]
        constructor
        · rintro ⟨index, product, found, rfl⟩
          exact ⟨index + 1, product, ⟨index, rfl, found⟩, by rw [Nat.add_right_comm, Nat.add_assoc]⟩
        · rintro ⟨_, product, ⟨index, rfl, found⟩, rfl⟩
          exact ⟨index, product, found, by rw [Nat.add_right_comm, Nat.add_assoc]⟩
      · rw [if_neg (mt (isValid_iff first).mpr valid)]
        constructor
        · rintro ⟨⟩
          exact ⟨0, first, ⟨rfl, valid, by simp⟩, rfl⟩
        · rintro ⟨index, product, ⟨there, _, least⟩, rfl⟩
          cases index with
          | zero =>
              cases there
              rfl
          | succ position =>
              exact absurd (least 0 (Nat.zero_lt_succ position) first rfl) valid

theorem checkProducts_eq_ok_iff (products : List NewProduct) (start : Nat) :
    checkProducts start products = .ok () ↔ ∀ product ∈ products, IsValid product := by
  simp only [isValid_iff]
  constructor
  · exact checkProducts_eq_ok
  · intro each
    induction products generalizing start with
    | nil => rfl
    | cons first rest ih =>
        obtain ⟨here, later⟩ := List.forall_mem_cons.mp each
        rw [checkProducts, if_pos here]
        exact ih (start + 1) later

section Reading

variable {files : Files.Tree} {current path : Files.Path} {text : String}

theorem readSeedFile_unreadable {fault : Files.Fault}
    (unread : files.readText current path = .error fault) :
    readSeedFile files current path = .error (.unreadable path fault) := by
  rw [readSeedFile, unread]
  rfl

theorem readSeedFile_of_text (read : files.readText current path = .ok text) :
    readSeedFile files current path =
      (Json.decode productsOfNode text).mapError (.malformed path) >>= fun products =>
        (checkProducts 0 products).map fun _ => products := by
  rw [readSeedFile, read]
  rfl

theorem readSeedFile_malformed {fault : Json.Fault} (read : files.readText current path = .ok text)
    (undecoded : Json.decode productsOfNode text = .error fault) :
    readSeedFile files current path = .error (.malformed path fault) := by
  rw [readSeedFile_of_text read, undecoded]
  rfl

theorem readSeedFile_decoded {products : List NewProduct}
    (read : files.readText current path = .ok text)
    (decoded : Json.decode productsOfNode text = .ok products) :
    readSeedFile files current path = (checkProducts 0 products).map fun _ => products := by
  rw [readSeedFile_of_text read, decoded]
  rfl

end Reading

/-- Why a file gives no products: it cannot be read, it is no list of products, or it has an invalid
one among them. -/
inductive IsSpoiled (files : Files.Tree) (current path : Files.Path) : SeedFault → Prop
  | unreadable {fault} : files.readText current path = .error fault →
      IsSpoiled files current path (.unreadable path fault)
  | malformed {text fault} : files.readText current path = .ok text →
      Json.decode productsOfNode text = .error fault →
      IsSpoiled files current path (.malformed path fault)
  | invalid {text products index product} : files.readText current path = .ok text →
      Json.decode productsOfNode text = .ok products → FirstInvalid products index product →
      IsSpoiled files current path (.invalid index product)

theorem readSeedFile_spoiled {files : Files.Tree} {current path : Files.Path} {fault : SeedFault}
    (spoiled : IsSpoiled files current path fault) :
    readSeedFile files current path = .error fault := by
  cases spoiled with
  | unreadable unread => exact readSeedFile_unreadable unread
  | malformed read undecoded => exact readSeedFile_malformed read undecoded
  | @invalid _ products index product read decoded first =>
      have stopped : checkProducts 0 products = .error (.invalid index product) :=
        (checkProducts_eq_error_iff products 0 _).mpr ⟨index, product, first, by rw [Nat.zero_add]⟩
      rw [readSeedFile_decoded read decoded, stopped]
      rfl

/-- Products that were decoded are given as they are if all are valid; if not, the first that is
invalid is named. -/
theorem readSeedFile_cases {files : Files.Tree} {current path : Files.Path} {text : String}
    {products : List NewProduct} (read : files.readText current path = .ok text)
    (decoded : Json.decode productsOfNode text = .ok products) :
    (readSeedFile files current path = .ok products ∧ ∀ product ∈ products, IsValid product) ∨
      ∃ index product, FirstInvalid products index product ∧
        readSeedFile files current path = .error (.invalid index product) := by
  rw [readSeedFile_decoded read decoded]
  cases checked : checkProducts 0 products with
  | ok done => exact Or.inl ⟨rfl, (checkProducts_eq_ok_iff products 0).mp checked⟩
  | error fault =>
      obtain ⟨index, product, first, rfl⟩ := (checkProducts_eq_error_iff products 0 _).mp checked
      rw [Nat.zero_add]
      exact Or.inr ⟨index, product, first, rfl⟩

theorem FirstInvalid.not_all_valid {products : List NewProduct} {index : Nat} {product : NewProduct}
    (first : FirstInvalid products index product) : ¬∀ other ∈ products, IsValid other :=
  fun each => first.invalid (each product (List.mem_of_getElem? first.there))

end ProductCatalog.Catalog
