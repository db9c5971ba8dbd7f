import ProductCatalog.Proofs.Store.History
import ProductCatalog.Proofs.Store.Paging
import ProductCatalog.Proofs.Store.Usable

/-! Tables that have their products in the order in which they were added. Identities are given in
increasing order and are never given again, so this is the order of the identities, and whatever is
added later stands behind it. -/

namespace ProductCatalog.Store

/-- The products stand in the order of their identities, all of which were given. -/
structure Table.Ordered (table : Table) : Prop where
  room : table.lastId ≤ maxId
  increasing : (table.contents.entries.map (·.row.id)).Pairwise (· < ·)
  bounds : ∀ entry ∈ table.contents.entries, 0 < entry.row.id ∧ entry.row.id ≤ table.lastId

/-- The database has a table, of the first version or of the second, and that one is ordered. -/
def Database.Ordered (database : Database) : Prop :=
  ∃ table, database.products = some table ∧ table.Ordered

theorem Contents.rows_entries (contents : Contents) :
    contents.entries.map (·.row) = contents.rows := by
  cases contents with
  | plain rows =>
      rw [Contents.entries, List.map_map]
      exact List.map_id rows
  | folded entries => rfl

theorem Database.rows_entries (database : Database) :
    database.entries.map (·.row) = database.rows := by
  obtain ⟨version, table | _⟩ := database
  · rfl
  · exact Contents.rows_entries _

theorem Database.Ordered.entries_increasing {database : Database} (ordered : database.Ordered) :
    (database.entries.map (·.row.id)).Pairwise (· < ·) := by
  obtain ⟨table, products, ordered⟩ := ordered
  rw [Database.entries, products]
  exact ordered.increasing

theorem Database.Ordered.rows_increasing {database : Database} (ordered : database.Ordered) :
    (database.rows.map (·.id)).Pairwise (· < ·) := by
  rw [← database.rows_entries, List.map_map]
  exact ordered.entries_increasing

theorem Database.Ordered.identified {database : Database} (ordered : database.Ordered) :
    database.Identified := by
  refine ⟨ordered.entries_increasing.imp fun below => Int.ne_of_lt below, ?_⟩
  obtain ⟨table, products, room, _, bounds⟩ := ordered
  rw [Database.entries, products]
  intro entry member
  have bound := bounds entry member
  omega

/-- Whatever was inserted and cleared since a database was new, its table is ordered. -/
theorem Sound.ordered {entries : List Entry} {lastId : Nat} (sound : Sound entries lastId) :
    (upToDate entries lastId).Ordered :=
  ⟨_, rfl, sound.room, sound.increasing, sound.bounds⟩

theorem Database.Ordered.upgraded {before after : Database} (ordered : before.Ordered)
    (upgraded : before.upgraded = .ok after) : after.Ordered := by
  obtain ⟨table, products, tableOrdered⟩ := ordered
  rcases upgraded_by_mark upgraded with ⟨first, folded⟩ | ⟨_, rfl⟩ | ⟨_, _, rfl⟩
  · obtain ⟨rows, lastId, checked, plain, rfl⟩ := withFoldedNames_cases folded
    obtain ⟨room, increasing, bounds⟩ := tableOrdered
    rw [plain] at products
    cases products
    refine ⟨⟨.folded (rows.map fun row => ⟨row, foldName row.name⟩), lastId, checked⟩, ?_, room, ?_,
      ?_⟩
    · rw [Database.remarked, first]
      rfl
    · simp only [Contents.entries, List.map_map] at increasing ⊢
      exact increasing
    · simpa [Contents.entries] using bounds
  · exact ⟨table, products, tableOrdered⟩
  · refine ⟨table, ?_, tableOrdered⟩
    rw [Database.initialized, Database.marked, Database.withTables, products]
    rfl

theorem Database.Ordered.clear {before after : Database} (ordered : before.Ordered) {removed : Nat}
    (cleared : before.clear = .ok (removed, after)) : after.Ordered ∧ after.rows = [] := by
  obtain ⟨⟨contents, lastId, checked⟩, products, ordered⟩ := ordered
  rw [Database.clear, products] at cleared
  cases cleared
  have emptied : contents.clear.entries = [] := by cases contents <;> rfl
  constructor
  · refine ⟨_, rfl, ordered.room, ?_, ?_⟩
    · simp [emptied]
    · simp [emptied]
  · rw [← Database.rows_entries]
    simp [Database.entries, emptied]

/-- Products that are added stand behind those that are there, in the order of the list. -/
theorem Database.Ordered.insertAll {before after : Database} (ordered : before.Ordered) {now : Int}
    {products : List NewProduct} (inserted : before.insertAll now products = .ok after) :
    after.Ordered ∧ ∃ lastId checked,
      after.rows = before.rows ++ (newEntries now lastId products).map (·.row) ∧
      ∀ product ∈ products, AcceptedBy checked product := by
  obtain ⟨table, stored, tableOrdered⟩ := ordered
  rcases insertAll_cases inserted with
    ⟨rfl, rfl⟩ | ⟨entries, lastId, checked, folded, accepted, grown⟩
  · exact ⟨⟨table, stored, tableOrdered⟩, 0, true, (List.append_nil _).symm, List.forall_mem_nil _⟩
  · rw [folded] at stored
    cases stored
    obtain ⟨room, increasing, bounds⟩ := tableOrdered
    obtain ⟨roomThere, each⟩ :=
      (firstRefusal_eq_none_iff_acceptedBy checked _ lastId room).mp accepted
    obtain ⟨increasingThere, boundsThere⟩ :=
      append_newEntries_increasing increasing bounds now products
    refine ⟨⟨_, grown, roomThere, increasingThere, boundsThere⟩, lastId, checked, ?_, each⟩
    rw [Database.rows, Database.rows, folded, grown]
    exact List.map_append

end ProductCatalog.Store
