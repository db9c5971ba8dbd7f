import ProductCatalog.Proofs.Store.Matching
import ProductCatalog.Proofs.Store.Migration

/-! Databases that can be searched by name and added to, and which databases become so when they are
brought up to date. A table that is there already is upgraded only from the mark of the first
version. Under any other mark, and under none, it is taken to be up to date as it is. -/

namespace ProductCatalog.Store

open Query (Filter Parameters)

/-- A database that is up to date, whether or not its table was made with the checks on names and
companies. -/
def Database.ofEntries (entries : List Entry) (lastId : Nat) (checked : Bool) : Database :=
  ⟨.number supportedVersion, some ⟨.folded entries, lastId, checked⟩⟩

def Folded (entries : List Entry) : Prop :=
  ∀ entry ∈ entries, entry.foldedName = foldName entry.row.name

/-- The database is up to date, and names are kept in lowercase beside all products. -/
def Database.Usable (database : Database) : Prop :=
  ∃ entries lastId checked, database = .ofEntries entries lastId checked ∧ Folded entries

/-- A database that is marked with the version that its table has, or that has no table and is not
marked as up to date. -/
def Database.Upgradable (database : Database) : Prop :=
  match database.products with
  | none => database.version ≠ .number supportedVersion
  | some ⟨.plain _, _, _⟩ => database.version = .number 1
  | some ⟨.folded entries, _, _⟩ => Folded entries

theorem folded_map (rows : List Row) : Folded (rows.map fun row => ⟨row, foldName row.name⟩) := by
  intro entry member
  obtain ⟨row, _, rfl⟩ := List.mem_map.mp member
  rfl

theorem Folded.append {front back : List Entry} (frontFolded : Folded front)
    (backFolded : Folded back) : Folded (front ++ back) :=
  List.forall_mem_append.mpr ⟨frontFolded, backFolded⟩

theorem folded_newEntries (now : Int) (lastId : Nat) (products : List NewProduct) :
    Folded (newEntries now lastId products) := by
  intro entry member
  obtain ⟨id, product, _, rfl⟩ := mem_newEntries now products lastId member
  rfl

theorem predicates_of_name {needle : String} (given : needle ≠ "") :
    (Filter.ofParameters { name := some needle }).predicates = [.nameContains needle] := by
  have present : Query.present (some needle) = some needle := by
    simp [Query.present, given]
  simp only [Filter.ofParameters, present]
  rfl

theorem objection_of_name {database : Database} {entries : List Entry} {lastId : Nat}
    {checked : Bool} (products : database.products = some ⟨.folded entries, lastId, checked⟩)
    {needle : String} (given : needle ≠ "") :
    database.objection? (.ofParameters { name := some needle }) =
      if maxPatternSize < (Query.needlePattern needle).utf8ByteSize ∧ entries ≠ [] then
        some .patternTooLong
      else none := by
  have few : ¬conditionLimit ≤ [Query.Predicate.nameContains needle].length := by
    simp [conditionLimit]
  have tested : entries.any (testsOverlong · [.nameContains needle]) = true ↔
      maxPatternSize < (Query.needlePattern needle).utf8ByteSize ∧ entries ≠ [] := by
    cases entries <;> simp [testsOverlong, isOverlong]
  simp only [Database.objection?, predicates_of_name given, products, Contents.isPlain,
    Contents.entries, few, if_false, Bool.false_and, Bool.false_eq_true, tested]

theorem select_of_name {database : Database} {entries : List Entry} {lastId : Nat}
    {checked : Bool} (products : database.products = some ⟨.folded entries, lastId, checked⟩)
    {needle : String} (given : needle ≠ "")
    (short : (Query.needlePattern needle).utf8ByteSize ≤ maxPatternSize) :
    database.select (.ofParameters { name := some needle }) =
      .ok ((entries.filter (holds · (.nameContains needle))).map (·.row)) := by
  rw [select_eq, objection_of_name products given, if_neg (by omega), Database.matching,
    predicates_of_name given, Database.entries, products]
  simp only [List.all_cons, List.all_nil, Bool.and_true]
  rfl

theorem holds_nameContains_iff {entry : Entry} (own : entry.foldedName = foldName entry.row.name)
    (needle : String) :
    holds entry (.nameContains needle) = true ↔ Finds needle entry.row.name := by
  rw [holds, own, isMatch_needlePattern]

/-- What is chosen are the items of a kind, all of them and in the order that they had. -/
structure Chooses {α : Type} (wanted : α → Prop) (items chosen : List α) : Prop where
  sublist : chosen.Sublist items
  members : ∀ item, item ∈ chosen ↔ item ∈ items ∧ wanted item

theorem select_named {entries : List Entry} (folded : Folded entries) {needle : String}
    (given : needle ≠ "") (short : (Query.needlePattern needle).utf8ByteSize ≤ maxPatternSize)
    (lastId : Nat) (checked : Bool) :
    ∃ chosen,
      (Database.ofEntries entries lastId checked).select (.ofParameters { name := some needle }) =
        .ok (chosen.map (·.row)) ∧
      Chooses (fun entry => Finds needle entry.row.name) entries chosen := by
  refine ⟨_, select_of_name rfl given short, List.filter_sublist, ?_⟩
  intro entry
  rw [List.mem_filter, and_congr_right_iff]
  intro member
  exact holds_nameContains_iff (folded entry member) needle

/-- Searches by name select what they should, and products that a checked table accepts are added
wherever there is room for them. -/
structure Database.Serves (database : Database) : Prop where
  search : ∀ needle ≠ "", (Query.needlePattern needle).utf8ByteSize ≤ maxPatternSize →
    ∃ chosen, database.select (.ofParameters { name := some needle }) = .ok (chosen.map (·.row)) ∧
      Chooses (fun entry => Finds needle entry.row.name) database.entries chosen
  insert : ∀ now products, database.lastId + products.length ≤ maxId →
    (∀ product ∈ products, Acceptable product) →
    ∃ after added, database.insertAll now products = .ok after ∧ after.Usable ∧
      after.entries = database.entries ++ added ∧ List.Forall₂ (Keeps now) products added

theorem Database.Usable.serves {database : Database} (usable : database.Usable) :
    database.Serves := by
  obtain ⟨entries, lastId, checked, rfl, folded⟩ := usable
  constructor
  · intro needle given short
    exact select_named folded given short lastId checked
  · intro now products room acceptable
    have below : lastId ≤ maxId := Nat.le_trans (Nat.le_add_right _ _) room
    have accepted : firstRefusal? checked lastId products = none := by
      rw [firstRefusal_eq_none_iff_acceptedBy checked products lastId below]
      exact ⟨room, fun product member => (acceptable product member).acceptedBy checked⟩
    let added := newEntries now lastId products
    refine ⟨.ofEntries (entries ++ added) (lastId + products.length) checked, added, ?_, ?_, rfl,
      newEntries_keep now products lastId⟩
    · rw [Database.ofEntries, insertAll_folded, accepted]
      rfl
    · exact ⟨_, _, _, rfl, folded.append (folded_newEntries now lastId products)⟩

theorem upgraded_by_mark {before after : Database} (upgraded : before.upgraded = .ok after) :
    before.version = .number 1 ∧ before.withFoldedNames = .ok after ∨
      before.version = .number 2 ∧ after = before ∨
      before.version ≠ .number 1 ∧ before.version ≠ .number 2 ∧ after = before.initialized := by
  rcases upgraded_cases upgraded with fresh | earlier | current
  · by_cases second : before.version = .number 2
    · rw [upgraded_of_current second] at upgraded
      exact Or.inr (Or.inl ⟨second, (Except.ok.inj upgraded).symm⟩)
    · by_cases first : before.version = .number 1
      · left
        refine ⟨first, ?_⟩
        rw [upgraded_of_number first] at upgraded
        cases folded : before.withFoldedNames with
        | error fault =>
            simp only [Database.upgradedFrom, folded] at upgraded
            cases upgraded
        | ok found =>
            simp only [Database.upgradedFrom, folded] at upgraded
            cases upgraded
            rfl
      · exact Or.inr (Or.inr ⟨first, second, fresh⟩)
  · exact Or.inl earlier
  · exact Or.inr (Or.inl current)

theorem usable_iff_of_products {database : Database} {entries : List Entry} {lastId : Nat}
    {checked : Bool} (marked : database.version = .number supportedVersion)
    (products : database.products = some ⟨.folded entries, lastId, checked⟩) :
    database.Usable ↔ Folded entries := by
  obtain ⟨version, table⟩ := database
  cases marked
  cases products
  constructor
  · rintro ⟨others, otherId, otherChecked, same, folded⟩
    cases same
    exact folded
  · intro folded
    exact ⟨entries, lastId, checked, rfl, folded⟩

theorem not_usable_of_plain {database : Database} {rows : List Row} {lastId : Nat} {checked : Bool}
    (products : database.products = some ⟨.plain rows, lastId, checked⟩) : ¬database.Usable := by
  rintro ⟨entries, otherId, otherChecked, rfl, _⟩
  cases products

theorem initialized_usable_iff {before : Database} (first : before.version ≠ .number 1)
    (second : before.version ≠ .number 2) : before.initialized.Usable ↔ before.Upgradable := by
  obtain ⟨version, _ | ⟨rows | entries, lastId, checked⟩⟩ := before
  · have created : (Database.initialized ⟨version, none⟩).Usable :=
      ⟨[], 0, true, rfl, List.forall_mem_nil _⟩
    exact iff_of_true created second
  · exact iff_of_false (not_usable_of_plain rfl) first
  · exact usable_iff_of_products rfl rfl

theorem current_usable_iff {before : Database} (marked : before.version = .number 2) :
    before.Usable ↔ before.Upgradable := by
  obtain ⟨version, _ | ⟨rows | entries, lastId, checked⟩⟩ := before
  · apply iff_of_false
    · rintro ⟨entries, lastId, checked, same, _⟩
      cases same
    · exact fun upgradable => upgradable marked
  · apply iff_of_false (not_usable_of_plain rfl)
    intro upgradable
    have differs : (2 : Int) = 1 := SchemaVersion.number.inj (marked.symm.trans upgradable)
    omega
  · exact usable_iff_of_products marked rfl

theorem upgraded_usable_iff {before after : Database} (upgraded : before.upgraded = .ok after) :
    after.Usable ↔ before.Upgradable := by
  rcases upgraded_by_mark upgraded with ⟨first, folded⟩ | ⟨second, rfl⟩ | ⟨first, second, rfl⟩
  · obtain ⟨rows, lastId, checked, products, rfl⟩ := withFoldedNames_cases folded
    apply iff_of_true
    · simp only [Database.remarked, first]
      exact ⟨_, lastId, checked, rfl, folded_map rows⟩
    · rw [Database.Upgradable, products]
      exact first
  · exact current_usable_iff second
  · exact initialized_usable_iff first second

theorem upgraded_plain {before after : Database} (upgraded : before.upgraded = .ok after)
    (other : before.version ≠ .number 1) {rows : List Row} {lastId : Nat} {checked : Bool}
    (products : before.products = some ⟨.plain rows, lastId, checked⟩) :
    after.products = before.products := by
  rcases upgraded_by_mark upgraded with ⟨first, _⟩ | ⟨_, rfl⟩ | ⟨_, _, rfl⟩
  · exact absurd first other
  · rfl
  · rw [Database.initialized, Database.marked, Database.withTables, products]
    rfl

theorem select_plain {database : Database} {rows : List Row} {lastId : Nat} {checked : Bool}
    (products : database.products = some ⟨.plain rows, lastId, checked⟩) {needle : String}
    (given : needle ≠ "") :
    database.select (.ofParameters { name := some needle }) =
      .error (.ofRefusal .noFoldedName) := by
  have few : ¬conditionLimit ≤ [Query.Predicate.nameContains needle].length := by
    simp [conditionLimit]
  rw [select_eq]
  simp only [Database.objection?, predicates_of_name given, products, few, if_false,
    Contents.isPlain, List.any_cons, needsFoldedName, Bool.true_or, Bool.and_self, if_true]

/-- The databases that a server can come upon: without a mark, or marked with a version that is
known, the first and the second only on a table of that version. -/
structure Database.Consistent (database : Database) : Prop where
  known : ∀ version, database.version = .number version →
    version ≤ supportedVersion ∧ isReadable version
  first : database.version = .number 1 →
    ∃ rows lastId checked, database.products = some ⟨.plain rows, lastId, checked⟩
  second : database.version = .number 2 →
    ∃ entries lastId checked, database.products = some ⟨.folded entries, lastId, checked⟩

theorem Database.Consistent.upgraded_ok {before : Database} (consistent : before.Consistent) :
    ∃ after, before.upgraded = .ok after := by
  cases marked : before.version with
  | untracked =>
      refine ⟨before.initialized, ?_⟩
      simp only [Database.upgraded, Database.isTracked, marked]
      rfl
  | unset =>
      refine ⟨before.initialized, ?_⟩
      simp only [Database.upgraded, Database.isTracked, Database.readVersion, marked]
      rfl
  | number version =>
      obtain ⟨bound, readable⟩ := consistent.known version marked
      rw [upgraded_of_number marked, if_pos readable, Database.upgradedFrom, if_neg (by omega)]
      by_cases early : version < 1
      · rw [if_pos early]
        exact ⟨_, rfl⟩
      rw [if_neg early]
      by_cases first : version = 1
      · subst first
        obtain ⟨rows, lastId, checked, products⟩ := consistent.first marked
        rw [if_pos rfl, Database.withFoldedNames, products]
        exact ⟨_, rfl⟩
      · rw [if_neg first]
        exact ⟨_, rfl⟩

/-- When a database has been brought up to date, it is marked so, and it can be searched by name
and added to exactly if it was upgradable. A table of the first version that was not marked with it
is the exception: it is left without names in lowercase, and every search by name and every product
is refused from then on. -/
theorem bringUpToDate_usable (before : Database) (distinct : (before.rows.map (·.id)).Nodup)
    (mishaps : List (Option EngineFault)) :
    let run := bringUpToDate { stored := before, mishaps }
    (before.Consistent → (∀ mishap ∈ mishaps, mishap = none) → run.1 = .ok ()) ∧
    (run.1 = .ok () →
      run.2.stored.version = .number 2 ∧
      (run.2.stored.Usable ↔ before.Upgradable) ∧
      (run.2.stored.Usable → run.2.stored.Serves) ∧
      ∀ rows lastId checked, before.products = some ⟨.plain rows, lastId, checked⟩ →
        before.version ≠ .number 1 →
        run.2.stored.products = before.products ∧
        (∀ needle ≠ "", run.2.stored.select (.ofParameters { name := some needle }) =
          .error (.ofRefusal .noFoldedName)) ∧
        ∀ now added, added ≠ [] →
          run.2.stored.insertAll now added = .error (.ofRefusal .noPlaceForFoldedName)) := by
  intro run
  have ends := bringUpToDate_ends distinct mishaps
  constructor
  · intro consistent calm
    obtain ⟨after, upgraded⟩ := consistent.upgraded_ok
    rw [upgraded] at ends
    rcases ends.of_ok with ⟨done, _⟩ | ⟨fault, _, mishap, befell, _⟩
    · exact done
    · cases calm _ befell
  · intro done
    have upgraded := ends.effect_of_done done
    refine ⟨(upgraded_keeps upgraded).2, upgraded_usable_iff upgraded, Database.Usable.serves, ?_⟩
    intro rows lastId checked products other
    have same := upgraded_plain upgraded other products
    exact ⟨same, fun needle given => select_plain (same.trans products) given,
      fun now added some_product => insertAll_plain (same.trans products) now some_product⟩

/-- A table of the first version in a database that has lost its mark. -/
def unmarkedShelves : Database :=
  { shelves with version := .unset }

theorem shelves_consistent : shelves.Consistent := by
  refine ⟨?_, fun _ => ⟨_, _, _, rfl⟩, ?_⟩
  · rintro version ⟨⟩
    decide
  · rintro ⟨⟩

theorem unmarkedShelves_consistent : unmarkedShelves.Consistent := by
  refine ⟨?_, ?_, ?_⟩
  · rintro version ⟨⟩
  · rintro ⟨⟩
  · rintro ⟨⟩

theorem bringUpToDate_usable_shelves :
    (bringUpToDate { stored := shelves }).2.stored.Serves ∧
    (bringUpToDate { stored := unmarkedShelves }).2.stored.select
      (.ofParameters { name := some "lamp" }) = .error (.ofRefusal .noFoldedName) := by
  have distinct : (shelves.rows.map (·.id)).Nodup := by decide
  constructor
  · have upgrade := bringUpToDate_usable shelves distinct []
    have upgraded := upgrade.2 (upgrade.1 shelves_consistent (List.forall_mem_nil _))
    exact upgraded.2.2.1 (upgraded.2.1.mpr rfl)
  · have upgrade := bringUpToDate_usable unmarkedShelves distinct []
    have upgraded := upgrade.2 (upgrade.1 unmarkedShelves_consistent (List.forall_mem_nil _))
    exact (upgraded.2.2.2 _ _ _ rfl (by decide)).2.1 "lamp" (by decide)

/-- Such a table is marked as up to date, but it is not usable. -/
theorem bringUpToDate_not_usable :
    unmarkedShelves.Consistent ∧ (unmarkedShelves.rows.map (·.id)).Nodup ∧
    (bringUpToDate { stored := unmarkedShelves }).1 = .ok () ∧
    ¬(bringUpToDate { stored := unmarkedShelves }).2.stored.Usable := by
  exact ⟨unmarkedShelves_consistent, by decide, rfl, not_usable_of_plain rfl⟩

end ProductCatalog.Store
