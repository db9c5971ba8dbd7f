import Mathlib.Data.List.Basic
import ProductCatalog.Files.DatabaseFile
import ProductCatalog.Proofs.Outcome
import ProductCatalog.Proofs.Store.KeptRows

/-! The products that a tree of files holds, database by database. To create directories and to open
a database leaves all of them as they are. -/

namespace ProductCatalog.Files

def Entry.rows : Entry → List Row
  | .database stored => stored.rows
  | .directory | .file _ => []

namespace Tree

/-- The products in the database at a place; none where no database is. -/
def rowsAt (tree : Tree) (place : Place) : List Row :=
  tree.entry? place |>.map Entry.rows |>.getD []

/-- Both trees hold the same products at the same places. -/
def SameProducts (before after : Tree) : Prop :=
  ∀ place, after.rowsAt place = before.rowsAt place

theorem SameProducts.refl (tree : Tree) : SameProducts tree tree :=
  fun _ => rfl

theorem SameProducts.trans {first second third : Tree} (one : SameProducts first second)
    (two : SameProducts second third) : SameProducts first third :=
  fun place => (two place).trans (one place)

theorem lookup_filter_ne {entries : List (Place × Entry)} {place other : Place}
    (apart : other ≠ place) :
    (entries.filter (·.1 ≠ place)).lookup other = entries.lookup other := by
  induction entries with
  | nil => rfl
  | cons first rest ih =>
      by_cases here : first.1 = place
      · have skipped : (other == first.1) = false := beq_false_of_ne (here ▸ apart)
        rw [List.filter_cons_of_neg (by simpa using here), ih, List.lookup_cons, skipped]
      · rw [List.filter_cons_of_pos (by simpa using here), List.lookup_cons, List.lookup_cons, ih]

theorem entry_insert (tree : Tree) (place other : Place) (entry : Entry) :
    entry? (tree.insert place entry) other =
      if other ≠ [] ∧ other = place then some entry else tree.entry? other := by
  unfold entry? insert
  by_cases root : other = []
  · simp [root]
  by_cases here : other = place
  · rw [if_neg root, if_pos ⟨root, here⟩, here, List.lookup_cons_self]
  · have skipped : (other == place) = false := beq_false_of_ne here
    rw [if_neg root, if_neg root, if_neg (fun both => here both.2), List.lookup_cons, skipped]
    exact lookup_filter_ne here

/-- An entry with the products that were at its place takes none away and brings none. -/
theorem sameProducts_insert {tree : Tree} {place : Place} {entry : Entry}
    (same : entry.rows = tree.rowsAt place) : SameProducts tree (tree.insert place entry) := by
  intro other
  unfold rowsAt
  rw [entry_insert]
  split
  next here =>
    rw [here.2]
    exact same
  next => rfl

theorem createDirectory_sameProducts {before after : Tree} {pieces : List String}
    (created : before.createDirectory pieces = .ok after) : SameProducts before after := by
  fun_induction createDirectory before pieces with
  | case1 => cases created
  | case2 rest ih => exact ih created
  | case3 name rest _ =>
      obtain ⟨parent, _, later⟩ := bind_eq_ok created
      split at later
      · cases later
      dsimp only at later
      split at later
      · cases later
      rename_i absent
      cases later
      apply sameProducts_insert
      have nothing : before.entry? (parent ++ [name]) = none := by simpa using absent
      rw [rowsAt, nothing]
      rfl

theorem ensureDirectory_sameProducts (tree : Tree) (pieces : List String) :
    SameProducts tree (tree.ensureDirectory pieces).2 := by
  unfold ensureDirectory
  split
  next after created => exact createDirectory_sameProducts created
  next => exact .refl tree

theorem ensureLed_sameProducts {lead : Tree → Except Fault Unit × Tree}
    (leads : ∀ tree, SameProducts tree (lead tree).2) (tree : Tree) (pieces : List String) :
    SameProducts tree (tree.ensureLed lead pieces).2 := by
  have first := tree.ensureDirectory_sameProducts pieces
  unfold ensureLed
  split
  next between missing =>
    rw [missing] at first
    have leading := leads between
    split
    next after led =>
      rw [led] at leading
      exact (first.trans leading).trans (after.ensureDirectory_sameProducts pieces)
    next => exact first.trans leading
  next => exact first

theorem ensureDirectories_sameProducts (names : List String) (tree : Tree) :
    SameProducts tree (tree.ensureDirectories names).2 := by
  induction names generalizing tree with
  | nil => exact .refl tree
  | cons name rest ih => exact ensureLed_sameProducts ih tree (name :: rest)

theorem createDirectories_sameProducts (tree : Tree) (path : Path) :
    SameProducts tree (tree.createDirectories path).2 := by
  unfold createDirectories
  split
  · exact .refl tree
  · exact ensureLed_sameProducts (ensureDirectories_sameProducts _) tree _

theorem createParents_sameProducts (tree : Tree) (path : Path) :
    SameProducts tree (tree.createParents path).2 := by
  unfold createParents
  split
  · exact .refl tree
  · exact tree.createDirectories_sameProducts _

theorem rows_databaseOf {tree : Tree} {place : Place} {entry : Option Entry}
    (there : tree.entry? place = entry) {database : Store.Database}
    (found : databaseOf entry = .ok database) : database.rows = tree.rowsAt place := by
  unfold rowsAt
  rw [there]
  rcases entry with _ | _ | ⟨_ | ⟨byte, bytes⟩⟩ | stored
  all_goals cases found
  all_goals rfl

theorem rows_connect {tree : Tree} {path : Path} {connection : Store.Connection}
    (connected : tree.connect path = .ok connection) :
    connection.database.rows = tree.rowsAt (databasePlace path) := by
  unfold connect at connected
  split at connected
  · cases connected
  · obtain ⟨database, found, opened⟩ := bind_eq_ok connected
    rw [Store.rows_ofDatabase opened]
    exact rows_databaseOf rfl found

/-- A database that is opened, or cannot be opened, keeps its products. So do all others. -/
theorem openDatabase_sameProducts (tree : Tree) (path : Path) :
    SameProducts tree (tree.openDatabase path).2 := by
  have leading := tree.createParents_sameProducts path
  unfold openDatabase
  split
  next fault between failed =>
    rw [failed] at leading
    exact leading
  next between prepared =>
    rw [prepared] at leading
    split
    next => exact leading
    next connection connected =>
      exact leading.trans (sameProducts_insert (rows_connect connected))

end Tree

end ProductCatalog.Files
