import ProductCatalog.Proofs.Decimal.Defined
import ProductCatalog.Proofs.Store.Insertion

/-! Histories of a store: what holds of the products, whatever was inserted and cleared since the
database was new. -/

namespace ProductCatalog.Store

/-- What the table has checked of an entry, and what was worked out for it. -/
structure Entry.Sound (entry : Entry) : Prop where
  foldedName : entry.foldedName = foldName entry.row.name
  company : entry.row.company ∈ companies
  nameLength : 1 ≤ countedLength entry.row.name ∧ countedLength entry.row.name ≤ 100
  price : Decimal.isUndefined entry.row.price = false
  rating : Decimal.isUndefined entry.row.rating = false

/-- The entries of a table in which `lastId` is the greatest identity that was given. -/
structure Sound (entries : List Entry) (lastId : Nat) : Prop where
  room : lastId ≤ maxId
  increasing : (entries.map (·.row.id)).Pairwise (· < ·)
  bounds : ∀ entry ∈ entries, 0 < entry.row.id ∧ entry.row.id ≤ lastId
  each : ∀ entry ∈ entries, entry.Sound

theorem Acceptable.newEntry_sound {product : NewProduct} (acceptable : Acceptable product)
    (id : Nat) (now : Int) : (newEntry id now product).Sound where
  foldedName := rfl
  company := acceptable.company
  nameLength := acceptable.nameLength
  price := (Decimal.isUndefined_unsignedZero product.price).trans acceptable.price
  rating := (Decimal.isUndefined_unsignedZero product.rating).trans acceptable.rating

theorem Sound.append {entries : List Entry} {lastId : Nat} (sound : Sound entries lastId)
    (now : Int) {products : List NewProduct} (room : lastId + products.length ≤ maxId)
    (acceptable : ∀ product ∈ products, Acceptable product) :
    Sound (entries ++ newEntries now lastId products) (lastId + products.length) := by
  obtain ⟨increasing, bounds⟩ :=
    append_newEntries_increasing sound.increasing sound.bounds now products
  refine ⟨room, increasing, bounds, ?_⟩
  intro entry member
  rcases List.mem_append.mp member with old | new
  · exact sound.each entry old
  · obtain ⟨id, product, belongs, rfl⟩ := mem_newEntries now products lastId new
    exact (acceptable product belongs).newEntry_sound id now

theorem Sound.clear {entries : List Entry} {lastId : Nat} (sound : Sound entries lastId) :
    Sound [] lastId :=
  ⟨sound.room, List.Pairwise.nil, by simp, by simp⟩

inductive Call where
  | insert (now : Int) (products : List NewProduct)
  | clear

def Call.perform : Call → Action Nat
  | insert now products => insertAll now products
  | clear => Store.clear

/-- The connection after calls one after the other, whatever their outcomes. -/
def run : List Call → Connection → Connection
  | [], connection => connection
  | call :: rest, connection => run rest (call.perform connection).2

def openOn (entries : List Entry) (lastId : Nat) : Connection :=
  ⟨upToDate entries lastId, true⟩

theorem insertAll_open (now : Int) (products : List NewProduct) (entries : List Entry)
    (lastId : Nat) :
    insertAll now products (openOn entries lastId) =
      match firstRefusal? true lastId products with
      | some refusal => (.error (.ofRefusal refusal), openOn entries lastId)
      | none => (.ok products.length,
          openOn (entries ++ newEntries now lastId products) (lastId + products.length)) := by
  simp only [insertAll, change, openOn, upToDate, insertAll_folded, if_true]
  cases firstRefusal? true lastId products <;> rfl

theorem clear_open (entries : List Entry) (lastId : Nat) :
    clear (openOn entries lastId) = (.ok entries.length, openOn [] lastId) := by
  simp [clear, change, openOn, upToDate, Database.clear, Table.rows, Contents.rows, Contents.clear]

/-- One call keeps a store sound, and gives no identity back. -/
theorem Call.perform_sound (call : Call) {entries : List Entry} {lastId : Nat}
    (sound : Sound entries lastId) :
    ∃ entries' lastId', (call.perform (openOn entries lastId)).2 = openOn entries' lastId' ∧
      Sound entries' lastId' ∧ lastId ≤ lastId' := by
  cases call with
  | insert now products =>
      rw [Call.perform, insertAll_open]
      cases accepted : firstRefusal? true lastId products with
      | some refusal => exact ⟨entries, lastId, rfl, sound, Nat.le_refl lastId⟩
      | none =>
          obtain ⟨room, acceptable⟩ :=
            (firstRefusal_eq_none_iff products lastId sound.room).mp accepted
          exact ⟨_, _, rfl, sound.append now room acceptable, Nat.le_add_right _ _⟩
  | clear =>
      rw [Call.perform, clear_open]
      exact ⟨[], lastId, rfl, sound.clear, Nat.le_refl lastId⟩

theorem run_sound (calls : List Call) {entries : List Entry} {lastId : Nat}
    (sound : Sound entries lastId) :
    ∃ entries' lastId', run calls (openOn entries lastId) = openOn entries' lastId' ∧
      Sound entries' lastId' ∧ lastId ≤ lastId' := by
  induction calls generalizing entries lastId with
  | nil => exact ⟨entries, lastId, rfl, sound, Nat.le_refl lastId⟩
  | cons call rest ih =>
      obtain ⟨between, betweenId, first, betweenSound, betweenBound⟩ := call.perform_sound sound
      obtain ⟨entries', lastId', others, sound', bound⟩ := ih betweenSound
      refine ⟨entries', lastId', ?_, sound', Nat.le_trans betweenBound bound⟩
      rw [run, first, others]

theorem ofDatabase_empty : Connection.ofDatabase .empty = .ok (openOn [] 0) := rfl

theorem empty_sound : Sound [] 0 :=
  ⟨Nat.zero_le _, List.Pairwise.nil, by simp, by simp⟩

def Database.lastId (database : Database) : Nat :=
  (database.products.map (·.lastId)).getD 0

/-- Whatever was inserted and cleared since a database was new: its products are sound and told
apart by their identities; an insert adds its products behind those that are there, under
identities greater than any that a product ever had, or it changes nothing; and a clear leaves no
product. -/
theorem history_sound :
    ∃ new, Connection.ofDatabase .empty = .ok new ∧ ∀ earlier later : List Call,
      let past := run earlier new
      let present := run later past
      (present.database.entries.map (·.row.id)).Nodup ∧
      (∀ entry ∈ present.database.entries, entry.Sound) ∧
      (∀ now products,
        let accepted := present.database.lastId + products.length ≤ maxId ∧
          ∀ product ∈ products, Acceptable product
        (accepted ∧ ∃ after added, insertAll now products present = (.ok products.length, after) ∧
          after.database.entries = present.database.entries ++ added ∧
          List.Forall₂ (Keeps now) products added ∧
          (added.map (·.row.id)).Pairwise (· < ·) ∧
          ∀ old ∈ past.database.entries, ∀ entry ∈ added, old.row.id < entry.row.id) ∨
        (¬accepted ∧ ∃ fault, insertAll now products present = (.error fault, present))) ∧
      ∃ after, clear present = (.ok present.database.rows.length, after) ∧
        after.database.rows = [] := by
  refine ⟨openOn [] 0, ofDatabase_empty, ?_⟩
  intro earlier later
  obtain ⟨pastEntries, pastId, pastEq, pastSound, _⟩ := run_sound earlier empty_sound
  obtain ⟨entries, lastId, presentEq, sound, grown⟩ := run_sound later pastSound
  simp only [pastEq, presentEq]
  refine ⟨sound.increasing.imp (fun below => Int.ne_of_lt below), sound.each, ?_, ?_⟩
  · intro now products
    change (lastId + products.length ≤ maxId ∧ _) ∧ _ ∨ ¬(lastId + products.length ≤ maxId ∧ _) ∧ _
    rw [insertAll_open, ← firstRefusal_eq_none_iff products lastId sound.room]
    cases outcome : firstRefusal? true lastId products with
    | some refusal => exact Or.inr ⟨by simp, .ofRefusal refusal, rfl⟩
    | none =>
        refine Or.inl ⟨rfl, _, newEntries now lastId products, rfl, rfl,
          newEntries_keep now products lastId, newEntries_increasing now products lastId, ?_⟩
        intro old oldMember entry member
        have below := (pastSound.bounds old oldMember).2
        have above := (newEntries_bounds now products lastId entry member).1
        omega
  · refine ⟨openOn [] lastId, ?_, rfl⟩
    rw [clear_open]
    simp [openOn, upToDate, Database.rows, Table.rows, Contents.rows]

end ProductCatalog.Store
