import ProductCatalog.Proofs.Outcome
import ProductCatalog.Proofs.Store.Step
import ProductCatalog.Proofs.Store.Usable
import ProductCatalog.Proofs.Text.Piece
import ProductCatalog.Proofs.Text.Size

/-! Searches for a product by a piece of its own name. All entries that are added or upgraded have
the lowercase of their names, whatever happens to the store afterwards; so a piece finds its product
if the lowercase of the piece occurs in that of the name, as the engine reads them. -/

namespace ProductCatalog.Store

open Text.Like (ToldApart asRead)

def Database.foldedEntries (database : Database) : List Entry :=
  match database.products with
  | some ⟨.folded entries, _, _⟩ => entries
  | _ => []

/-- All entries but the earlier ones have the lowercase of their own names. -/
def FoldedBeyond (earlier entries : List Entry) : Prop :=
  ∀ entry ∈ entries, entry.foldedName = foldName entry.row.name ∨ entry ∈ earlier

theorem Folded.beyond {entries : List Entry} (folded : Folded entries) (earlier : List Entry) :
    FoldedBeyond earlier entries :=
  fun entry member => Or.inl (folded entry member)

theorem foldedBeyond_refl (entries : List Entry) : FoldedBeyond entries entries :=
  fun _ member => Or.inr member

theorem FoldedBeyond.append {earlier entries added : List Entry}
    (beyond : FoldedBeyond earlier entries) (folded : Folded added) :
    FoldedBeyond earlier (entries ++ added) :=
  List.forall_mem_append.mpr ⟨beyond, folded.beyond earlier⟩

theorem foldedEntries_initialized (database : Database) :
    database.initialized.foldedEntries = database.foldedEntries := by
  obtain ⟨version, _ | ⟨rows | entries, lastId, checked⟩⟩ := database <;> rfl

theorem upgraded_foldedBeyond {before after : Database} (upgraded : before.upgraded = .ok after) :
    FoldedBeyond before.foldedEntries after.foldedEntries := by
  rcases upgraded_by_mark upgraded with ⟨first, folded⟩ | ⟨_, rfl⟩ | ⟨_, _, rfl⟩
  · obtain ⟨rows, lastId, checked, products, rfl⟩ := withFoldedNames_cases folded
    simp only [Database.remarked, first]
    exact (folded_map rows).beyond _
  · exact foldedBeyond_refl _
  · rw [foldedEntries_initialized]
    exact foldedBeyond_refl _

theorem foldedEntries_insertAll {now : Int} {products : List NewProduct} {before after : Database}
    (inserted : before.insertAll now products = .ok after) :
    ∃ added, after.foldedEntries = before.foldedEntries ++ added ∧ Folded added := by
  rcases insertAll_cases inserted with ⟨_, rfl⟩ | ⟨entries, lastId, checked, table, _, grown⟩
  · exact ⟨[], (List.append_nil _).symm, List.forall_mem_nil _⟩
  · refine ⟨newEntries now lastId products, ?_, folded_newEntries now lastId products⟩
    rw [Database.foldedEntries, Database.foldedEntries, table, grown]

theorem foldedEntries_clear {before after : Database} {count : Nat}
    (cleared : before.clear = .ok (count, after)) : after.foldedEntries = [] := by
  obtain ⟨version, _ | ⟨rows | entries, lastId, checked⟩⟩ := before <;> cases cleared <;> rfl

theorem Call.perform_foldedBeyond (call : Call) {earlier : List Entry} {connection : Connection}
    (beyond : FoldedBeyond earlier connection.database.foldedEntries) :
    FoldedBeyond earlier (call.perform connection).2.database.foldedEntries := by
  cases call with
  | insert now products =>
      rcases change_cases (fun database =>
          (database.insertAll now products).map (products.length, ·)) connection with
        same | ⟨count, after, inserted, changed⟩
      · rw [Call.perform, insertAll, same]
        exact beyond
      · obtain ⟨database, outcome, same⟩ := map_eq_ok inserted
        cases same
        obtain ⟨added, grown, folded⟩ := foldedEntries_insertAll outcome
        rw [Call.perform, insertAll, changed, grown]
        exact beyond.append folded
  | clear =>
      rcases change_cases Database.clear connection with same | ⟨count, after, cleared, changed⟩
      · rw [Call.perform, Store.clear, same]
        exact beyond
      · rw [Call.perform, Store.clear, changed, foldedEntries_clear cleared]
        exact List.forall_mem_nil _

theorem run_foldedBeyond (calls : List Call) {earlier : List Entry} {connection : Connection}
    (beyond : FoldedBeyond earlier connection.database.foldedEntries) :
    FoldedBeyond earlier (run calls connection).database.foldedEntries := by
  induction calls generalizing connection with
  | nil => exact beyond
  | cons call rest ih => exact ih (call.perform_foldedBeyond beyond)

theorem ofDatabase_foldedBeyond {before : Database} (distinct : (before.rows.map (·.id)).Nodup)
    {new : Connection} (opened : Connection.ofDatabase before = .ok new) :
    FoldedBeyond before.foldedEntries new.database.foldedEntries := by
  rw [Connection.ofDatabase, migrate_eq distinct] at opened
  obtain ⟨after, upgraded, rfl⟩ := map_eq_ok opened
  exact upgraded_foldedBeyond upgraded

theorem products_of_mem_foldedEntries {database : Database} {entry : Entry}
    (member : entry ∈ database.foldedEntries) :
    ∃ lastId checked,
      database.products = some ⟨.folded database.foldedEntries, lastId, checked⟩ := by
  obtain ⟨version, _ | ⟨rows | entries, lastId, checked⟩⟩ := database
  · cases member
  · cases member
  · exact ⟨lastId, checked, rfl⟩

/-- A piece occurs in a name in lowercase when none of its sigmas takes another form in it. -/
theorem contains_piece {name : String} {front piece back : List Char}
    (split : name.toList = front ++ piece ++ back)
    (keeps : Text.KeepsSigmas front.reverse piece back) :
    Contains (String.ofList piece) name := by
  rw [Contains, String.toList_ofList, foldName, String.toList_ofList, split]
  exact keeps.lowercase_infix

/-- Whatever was done since a database was opened: the names in lowercase that were not there before
are the lowercase of their names; and a product with such a name and without U+0000 in it is found
by a piece of its name exactly if the piece occurs in the name, both in lowercase and as they are
read. So it is found if the name contains the piece, and only then where their characters are told
apart. The name contains the piece whenever the capital sigmas of the piece keep their form, as they
do when they are guarded. Only a piece of a name of more than 12499 characters can be too long to
search for. -/
theorem search_piece {before : Database} (distinct : (before.rows.map (·.id)).Nodup)
    {new : Connection} (opened : Connection.ofDatabase before = .ok new) (calls : List Call) :
    let present := (run calls new).database
    FoldedBeyond before.foldedEntries present.foldedEntries ∧
    ∀ entry ∈ present.foldedEntries, entry.foldedName = foldName entry.row.name →
      '\u0000' ∉ entry.row.name.toList →
      ∀ front piece back, entry.row.name.toList = front ++ piece ++ back → piece ≠ [] →
      let needle := String.ofList piece
      let search := present.select (.ofParameters { name := some needle })
      let size := (Query.needlePattern needle).utf8ByteSize
      (maxPatternSize < size →
        12499 < entry.row.name.length ∧ search = .error (.ofRefusal .patternTooLong)) ∧
      (size ≤ maxPatternSize → ∃ chosen : List Entry, search = .ok (chosen.map (·.row)) ∧
        (entry ∈ chosen ↔ Finds needle entry.row.name)) ∧
      (Finds needle entry.row.name ↔
        (Text.lowercase piece).map asRead <:+: (foldName entry.row.name).toList.map asRead) ∧
      (Contains needle entry.row.name → Finds needle entry.row.name) ∧
      (ToldApart piece entry.row.name.toList →
        (Finds needle entry.row.name ↔ Contains needle entry.row.name)) ∧
      (Text.KeepsSigmas front.reverse piece back → Contains needle entry.row.name) ∧
      (Text.Guarded piece → Text.KeepsSigmas front.reverse piece back) := by
  intro present
  refine ⟨run_foldedBeyond calls (ofDatabase_foldedBeyond distinct opened), ?_⟩
  intro entry member own plainName front piece back split some_piece needle search size
  obtain ⟨lastId, checked, products⟩ := products_of_mem_foldedEntries member
  have characters : needle.toList = piece := String.toList_ofList
  have given : needle ≠ "" := by
    intro empty
    rw [empty, String.toList_empty] at characters
    exact some_piece characters.symm
  have plainNeedle : '\u0000' ∉ needle.toList := by
    rw [characters]
    intro within
    rw [split] at plainName
    exact plainName (List.mem_append_left _ (List.mem_append_right _ within))
  refine ⟨?_, ?_, ?_, ?_, ?_, contains_piece split, fun guarded => guarded.keepsSigmas _ _⟩
  · intro overlong
    constructor
    · have bound := (Text.needlePattern_size needle).2
      have lengths := congrArg List.length split
      rw [String.length_toList, List.length_append, List.length_append] at lengths
      have length : needle.length = piece.length := String.length_ofList
      unfold maxPatternSize at overlong
      omega
    · rw [show search = _ from select_eq _ _, objection_of_name products given,
        if_pos ⟨overlong, List.ne_nil_of_mem member⟩]
  · intro short
    refine ⟨_, select_of_name products given short, ?_⟩
    rw [List.mem_filter, holds_nameContains_iff own]
    exact and_iff_right member
  · rw [finds_iff_occurs plainNeedle (zero_not_mem_foldName plainName), characters]
  · exact fun contains => contains.finds plainNeedle plainName
  · intro apart
    have legible : Legible needle entry.row.name := ⟨plainNeedle, plainName, characters ▸ apart⟩
    exact legible.finds_iff_contains

def street : NewProduct :=
  { name := "ΟΔΟΣ", price := 10.0, company := "ikea" }

theorem search_piece_street :
    ∃ chosen : List Entry,
      (run [.insert 0 [street]] (openOn [] 0)).database.select
        (.ofParameters { name := some "ΔΟ" }) = .ok (chosen.map (·.row)) ∧
      newEntry 1 0 street ∈ chosen := by
  have distinct : (Database.empty.rows.map (·.id)).Nodup := List.nodup_nil
  obtain ⟨_, pieces⟩ := search_piece distinct ofDatabase_empty [.insert 0 [street]]
  have stored : (run [.insert 0 [street]] (openOn [] 0)).database.foldedEntries =
      [newEntry 1 0 street] := rfl
  obtain ⟨-, search, -, finds, -, contains, keeps⟩ := pieces (newEntry 1 0 street)
    (stored ▸ List.mem_singleton_self _) rfl (by decide) ['Ο'] ['Δ', 'Ο'] ['Σ'] rfl (by decide)
  obtain ⟨chosen, selected, found⟩ := search (by decide +kernel)
  have guarded : Text.Guarded ['Δ', 'Ο'] := Text.guarded_of_not_mem (by decide)
  exact ⟨chosen, selected, found.mpr (finds (contains (keeps guarded)))⟩

/-- A sigma that ends a word is not found by itself, since it has its final form there. -/
theorem search_piece_missed :
    (run [.insert 0 [street]] (openOn [] 0)).database.rows = [newRow 1 0 street] ∧
    '\u0000' ∉ street.name.toList ∧ street.name = "ΟΔΟ" ++ "Σ" ∧
    (run [.insert 0 [street]] (openOn [] 0)).database.select
      (.ofParameters { name := some "Σ" }) = .ok [] := by
  have stored : (run [.insert 0 [street]] (openOn [] 0)).database.products =
      some ⟨.folded [newEntry 1 0 street], 1, true⟩ := rfl
  have missed : holds (newEntry 1 0 street) (.nameContains "Σ") = false := by decide +kernel
  refine ⟨rfl, by decide, rfl, ?_⟩
  rw [select_of_name stored (by decide) (by decide +kernel), List.filter_singleton, missed]
  rfl

end ProductCatalog.Store
