import ProductCatalog.Proofs.Store.Transaction

/-! What bringing a database up to date comes to, whatever befalls on the way. -/

namespace ProductCatalog.Store

/-- An entry as it is after the names of all rows were folded one by one. -/
def Entry.refoldAll (rows : List Row) (entry : Entry) : Entry :=
  rows.foldl (fun entry row => Entry.refold row.id (foldName row.name) entry) entry

theorem refoldAll_absent {rows : List Row} {entry : Entry}
    (absent : ∀ row ∈ rows, row.id ≠ entry.row.id) : entry.refoldAll rows = entry := by
  unfold Entry.refoldAll
  induction rows with
  | nil => rfl
  | cons row rest ih =>
      have apart : ¬entry.row.id = row.id := fun same => absent row List.mem_cons_self same.symm
      have others := ih fun other member => absent other (List.mem_cons_of_mem _ member)
      rwa [List.foldl_cons, Entry.refold, if_neg apart]

/-- A product gets the lowercase of its own name, since no other product has its identity. -/
theorem refoldAll_member {rows : List Row} (distinct : (rows.map (·.id)).Nodup) {row : Row}
    (member : row ∈ rows) (text : String) :
    Entry.refoldAll rows ⟨row, text⟩ = ⟨row, foldName row.name⟩ := by
  induction rows with
  | nil => cases member
  | cons first rest ih =>
      obtain ⟨absent, others⟩ := List.nodup_cons.mp distinct
      rw [Entry.refoldAll, List.foldl_cons, Entry.refold]
      rcases List.mem_cons.mp member with rfl | later
      · rw [if_pos rfl]
        apply refoldAll_absent
        intro other among same
        exact absent (List.mem_map.mpr ⟨other, among, same⟩)
      · have apart : ¬row.id = first.id := fun same =>
          absent (List.mem_map.mpr ⟨row, later, same⟩)
        rw [if_neg apart]
        exact ih others later

def foldingName (named : Int × String) : Effect Unit :=
  .change (Database.withFoldedName named.1 (foldName named.2))

theorem forM_foldingName (rows : List Row) (entries : List Entry) (version : SchemaVersion)
    (lastId : Nat) (checked : Bool) :
    (rows.map fun row => (row.id, row.name)).forM foldingName
        ⟨version, some ⟨.folded entries, lastId, checked⟩⟩ =
      .ok ((), ⟨version, some ⟨.folded (entries.map (·.refoldAll rows)), lastId, checked⟩⟩) := by
  induction rows generalizing entries with
  | nil =>
      have same : entries.map (·.refoldAll []) = entries := List.map_id entries
      rw [same]
      rfl
  | cons row rest ih =>
      have refolded := ih (entries.map (·.refold row.id (foldName row.name)))
      rw [List.map_map] at refolded
      exact refolded

/-- Adding names in lowercase, when nothing befalls. -/
def foldingNames : Effect Unit := do
  Effect.change Database.withFoldedColumn
  let names ← Effect.ask Database.names
  names.forM foldingName
  Effect.change fun database => .ok (database.remarked 2)

/-- A database with names in lowercase beside the names that it has. -/
def Database.withFoldedNames (database : Database) : Except EngineFault Database :=
  match database.products with
  | none => .error (.refused .noTable)
  | some ⟨.folded _, _, _⟩ => .error (.refused .duplicateFoldedName)
  | some ⟨.plain rows, lastId, checked⟩ =>
    let contents := .folded (rows.map fun row => ⟨row, foldName row.name⟩)
    .ok (({ database with products := some { contents, lastId, checked } } : Database).remarked 2)

theorem foldingNames_eq {database : Database} (distinct : (database.rows.map (·.id)).Nodup) :
    (foldingNames database).map Prod.snd = database.withFoldedNames := by
  obtain ⟨version, _ | ⟨rows | entries, lastId, checked⟩⟩ := database
  · rfl
  · -- the column is new, so the names that are read come with the entries that are filled
    let entries := rows.map (Entry.mk · "")
    have filling : foldingNames ⟨version, some ⟨.plain rows, lastId, checked⟩⟩ =
        ((entries.map (·.row)).map fun row => (row.id, row.name)).forM foldingName
            ⟨version, some ⟨.folded entries, lastId, checked⟩⟩ >>=
          fun (_, between) => .ok ((), between.remarked 2) := rfl
    have same : entries.map (·.row) = rows := by
      rw [List.map_map]
      exact List.map_id rows
    have filled : entries.map (·.refoldAll rows) =
        rows.map fun row => ⟨row, foldName row.name⟩ := by
      rw [List.map_map]
      apply List.map_congr_left
      intro row member
      exact refoldAll_member distinct member ""
    rw [filling, same, forM_foldingName, filled]
    rfl
  · rfl

/-- A fault that is told because something befell the work. -/
def Fault.TellsOf (fault : Fault) (mishap : EngineFault) : Prop :=
  fault = .engine mishap ∨ fault = .notFolded mishap

theorem adapt_apply {ε : Type} {α : Type} (wrap : ε → Fault) (work : Work ε α)
    (session : Session) :
    work.adapt wrap session = ((work session).1.mapError wrap, (work session).2) := rfl

theorem Ends.adapt {wrap : EngineFault → Fault} (told : ∀ mishap, (wrap mishap).TellsOf mishap)
    {work : Work EngineFault Unit} {stored : Database} {mishaps : List (Option EngineFault)}
    {effect : Except EngineFault Database} {session : Session}
    (ends : Ends (· = ·) stored mishaps effect (work session)) :
    Ends Fault.TellsOf stored mishaps (effect.mapError wrap) (work.adapt wrap session) := by
  rw [adapt_apply]
  generalize work session = result at ends
  cases ends with
  | failed cause =>
      apply Ends.failed
      rcases cause with ⟨mishap, member, rfl⟩ | failure
      · exact Or.inl ⟨_, member, told _⟩
      · right
        rw [failure]
        rfl
  | done effected =>
      apply Ends.done
      rw [effected]
      rfl

theorem Ends.query {γ : Type} {question : Database → Except EngineFault γ}
    {next : γ → Work Fault Unit} {effect : γ → Except Fault Database} {stored : Database}
    (continues : ∀ value mishaps,
      Ends Fault.TellsOf stored mishaps (effect value) (next value ⟨stored, none, mishaps⟩))
    (mishaps : List (Option EngineFault)) :
    Ends Fault.TellsOf stored mishaps ((question stored).mapError .engine >>= effect)
      (((query question).adapt .engine >>= next) ⟨stored, none, mishaps⟩) := by
  rw [bind_apply, adapt_apply]
  rcases command_apply
      (Session.answer fun database => (question database).map (·, database))
      ⟨stored, none, mishaps⟩ with ⟨fault, member, failed⟩ | reached
  · rw [Store.query, send, failed]
    exact .failed (Or.inl ⟨fault, member, Or.inl rfl⟩)
  · rw [Store.query, send, reached]
    simp only [Session.answer, Session.current, Option.getD_none]
    cases answer : question stored with
    | error fault => exact .failed (Or.inr rfl)
    | ok value => exact (continues value mishaps.tail).mono (List.tail_sublist mishaps).subset

theorem applySchema_ends (database : Database) (mishaps : List (Option EngineFault)) :
    Ends Fault.TellsOf database mishaps (.ok database.initialized)
      (applySchema.adapt .engine ⟨database, none, mishaps⟩) := by
  have performs := (performs_execute fun database => .ok database.withTables).bind fun _ =>
    performs_execute fun database => .ok (database.marked supportedVersion)
  have ends := transaction_ends performs database mishaps
  unfold applySchema
  exact ends.adapt fun mishap => Or.inl rfl

theorem addFoldedNames_ends {database : Database} (distinct : (database.rows.map (·.id)).Nodup)
    (mishaps : List (Option EngineFault)) :
    Ends (· = ·) database mishaps database.withFoldedNames
      (addFoldedNames ⟨database, none, mishaps⟩) := by
  have filling (named : Int × String) :
      Performs (execute (Database.withFoldedName named.1 (foldName named.2)))
        (foldingName named) := performs_execute _
  have marking : Performs (execute fun database => .ok (database.remarked 2))
      (.change fun database => .ok (database.remarked 2)) := performs_execute _
  have performs := (performs_execute Database.withFoldedColumn).bind fun _ =>
    (performs_query Database.names).bind fun names =>
      (performs_forM filling names).bind fun _ => marking
  have ends := transaction_ends performs database mishaps
  rw [← foldingNames_eq distinct]
  exact ends

/-- A database of the given version brought up to date, when nothing befalls. -/
def Database.upgradedFrom (version : Int) (database : Database) : Except Fault Database :=
  if supportedVersion < version then .error (.laterVersion version)
  else if version < 1 then .ok database.initialized
  else if version = 1 then database.withFoldedNames.mapError .notFolded
  else .ok database

def Database.upgraded (database : Database) : Except Fault Database :=
  if database.isTracked then
    database.readVersion.mapError .engine >>= fun marked => database.upgradedFrom (marked.getD 0)
  else .ok database.initialized

theorem applyMigrations_ends {database : Database}
    (distinct : (database.rows.map (·.id)).Nodup) (mishaps : List (Option EngineFault)) :
    Ends Fault.TellsOf database mishaps
      (database.withFoldedNames.mapError .notFolded)
      ((versionsAfter 1).forM applyMigration ⟨database, none, mishaps⟩) := by
  have steps : (versionsAfter 1).forM applyMigration = applyMigration 2 := by
    change (applyMigration 2 >>= fun _ => pure ()) = applyMigration 2
    exact bind_pure_unit
  rw [steps, applyMigration, if_pos rfl]
  exact (addFoldedNames_ends distinct mishaps).adapt fun mishap => Or.inr rfl

theorem bringUpToDate_ends {database : Database} (distinct : (database.rows.map (·.id)).Nodup)
    (mishaps : List (Option EngineFault)) :
    Ends Fault.TellsOf database mishaps database.upgraded
      (bringUpToDate ⟨database, none, mishaps⟩) := by
  have asked : database.upgraded =
      (.ok database.isTracked : Except EngineFault Bool).mapError .engine >>= fun isTracked =>
        if isTracked then
          database.readVersion.mapError .engine >>= fun marked =>
            database.upgradedFrom (marked.getD 0)
        else .ok database.initialized := rfl
  rw [asked]
  apply Ends.query
  intro isTracked mishaps
  cases isTracked with
  | false => exact applySchema_ends database mishaps
  | true =>
      apply Ends.query
      intro marked mishaps
      simp only [Database.upgradedFrom]
      generalize marked.getD 0 = version
      by_cases later : supportedVersion < version
      · rw [if_pos later, if_pos later]
        exact .failed (Or.inr rfl)
      by_cases unset : version < 1
      · rw [if_neg later, if_neg later, if_pos unset, if_pos unset]
        exact applySchema_ends database mishaps
      rw [if_neg later, if_neg later, if_neg unset, if_neg unset]
      unfold supportedVersion at later
      obtain rfl | rfl : version = 1 ∨ version = 2 := by omega
      · rw [if_pos rfl]
        exact applyMigrations_ends distinct mishaps
      · rw [if_neg (by decide)]
        exact .done rfl

theorem upgraded_of_number {database : Database} {version : Int}
    (marked : database.version = .number version) :
    database.upgraded =
      if isReadable version then database.upgradedFrom version
      else .error (.engine
        (.undecodable 0 "out of range integral type conversion attempted")) := by
  have tracked : database.isTracked = true := by
    rw [Database.isTracked, marked]
    rfl
  rw [Database.upgraded, if_pos tracked]
  simp only [Database.readVersion, marked]
  split <;> rfl

theorem upgradedFrom_cases {database after : Database} {version : Int}
    (upgraded : database.upgradedFrom version = .ok after) :
    after = database.initialized ∨
      version = 1 ∧ database.withFoldedNames = .ok after ∨
      version = 2 ∧ after = database := by
  unfold Database.upgradedFrom supportedVersion at upgraded
  by_cases later : 2 < version
  · rw [if_pos later] at upgraded
    cases upgraded
  rw [if_neg later] at upgraded
  by_cases unset : version < 1
  · rw [if_pos unset] at upgraded
    exact Or.inl (Except.ok.inj upgraded).symm
  rw [if_neg unset] at upgraded
  right
  by_cases first : version = 1
  · rw [if_pos first] at upgraded
    cases folded : database.withFoldedNames with
    | error fault =>
        rw [folded] at upgraded
        cases upgraded
    | ok found =>
        rw [folded] at upgraded
        cases upgraded
        exact Or.inl ⟨first, rfl⟩
  · rw [if_neg first] at upgraded
    exact Or.inr ⟨by omega, (Except.ok.inj upgraded).symm⟩

/-- What bringing a database up to date can come to. -/
theorem upgraded_cases {database after : Database} (upgraded : database.upgraded = .ok after) :
    after = database.initialized ∨
      database.version = .number 1 ∧ database.withFoldedNames = .ok after ∨
      database.version = .number 2 ∧ after = database := by
  cases marked : database.version with
  | untracked =>
      simp only [Database.upgraded, Database.isTracked, marked] at upgraded
      exact Or.inl (Except.ok.inj upgraded).symm
  | unset =>
      simp only [Database.upgraded, Database.isTracked, Database.readVersion, marked] at upgraded
      exact Or.inl (Except.ok.inj upgraded).symm
  | number version =>
      rw [upgraded_of_number marked] at upgraded
      split at upgraded
      · rcases upgradedFrom_cases upgraded with fresh | ⟨rfl, folded⟩ | ⟨rfl, same⟩
        · exact Or.inl fresh
        · exact Or.inr (Or.inl ⟨rfl, folded⟩)
        · exact Or.inr (Or.inr ⟨rfl, same⟩)
      · cases upgraded

theorem withFoldedNames_cases {database after : Database}
    (folded : database.withFoldedNames = .ok after) :
    ∃ rows lastId checked, database.products = some ⟨.plain rows, lastId, checked⟩ ∧
      after = ({ database with
        products := some
          { contents := .folded (rows.map fun row => ⟨row, foldName row.name⟩)
            lastId, checked } } : Database).remarked 2 := by
  obtain ⟨version, _ | ⟨rows | entries, lastId, checked⟩⟩ := database
  · cases folded
  · exact ⟨rows, lastId, checked, rfl, (Except.ok.inj folded).symm⟩
  · cases folded

theorem rows_remarked (version : Int) (database : Database) :
    (database.remarked version).rows = database.rows := by
  unfold Database.remarked
  split <;> rfl

theorem rows_initialized (database : Database) : database.initialized.rows = database.rows := by
  obtain ⟨version, _ | table⟩ := database <;> rfl

theorem rows_withFoldedNames {database after : Database}
    (folded : database.withFoldedNames = .ok after) : after.rows = database.rows := by
  obtain ⟨rows, lastId, checked, products, rfl⟩ := withFoldedNames_cases folded
  have same : (rows.map fun row => Entry.mk row (foldName row.name)).map (·.row) = rows := by
    rw [List.map_map]
    exact List.map_id rows
  rw [rows_remarked]
  unfold Database.rows
  rw [products]
  exact same

theorem version_withFoldedNames {database after : Database}
    (marked : database.version = .number 1) (folded : database.withFoldedNames = .ok after) :
    after.version = .number 2 := by
  obtain ⟨rows, lastId, checked, products, rfl⟩ := withFoldedNames_cases folded
  simp only [Database.remarked, marked]
  rfl

/-- A database that is brought up to date keeps its products and is marked so. -/
theorem upgraded_keeps {database after : Database} (upgraded : database.upgraded = .ok after) :
    after.rows = database.rows ∧ after.version = .number supportedVersion := by
  rcases upgraded_cases upgraded with rfl | ⟨marked, folded⟩ | ⟨marked, rfl⟩
  · exact ⟨rows_initialized database, rfl⟩
  · exact ⟨rows_withFoldedNames folded, version_withFoldedNames marked folded⟩
  · exact ⟨rfl, marked⟩

theorem upgraded_of_current {database : Database}
    (marked : database.version = .number supportedVersion) :
    database.upgraded = .ok database := by
  rw [upgraded_of_number marked]
  rfl

/-- The database is brought up to date, nothing befalling on the way. -/
theorem migrate_eq {database : Database} (distinct : (database.rows.map (·.id)).Nodup) :
    database.migrate = database.upgraded := by
  have ends := bringUpToDate_ends distinct []
  unfold Database.migrate
  generalize bringUpToDate { stored := database } = result at ends ⊢
  cases ends with
  | failed cause =>
      rcases cause with ⟨mishap, member, _⟩ | failure
      · cases member
      · rw [failure]
        rfl
  | done effected =>
      rw [effected]
      rfl

/-- The fault comes of something that befell. -/
def Fault.ComesOf (mishaps : List (Option EngineFault)) (fault : Fault) : Prop :=
  ∃ mishap, some mishap ∈ mishaps ∧ fault.TellsOf mishap

/-- To bring a database up to date that is so already changes nothing, whatever befalls. -/
theorem bringUpToDate_current {database : Database}
    (distinct : (database.rows.map (·.id)).Nodup)
    (marked : database.version = .number supportedVersion) (mishaps : List (Option EngineFault)) :
    let run := bringUpToDate { stored := database, mishaps }
    run.2.stored = database ∧ ∀ fault, run.1 = .error fault → fault.ComesOf mishaps := by
  intro run
  have ends := bringUpToDate_ends distinct mishaps
  rw [upgraded_of_current marked] at ends
  rcases ends.of_ok with ⟨done, kept⟩ | ⟨fault, failed, befell⟩
  · refine ⟨kept, ?_⟩
    intro fault failed
    cases done.symm.trans failed
  · refine ⟨ends.stored_of_failed failed, ?_⟩
    intro other same
    cases failed.symm.trans same
    exact befell

/-- A database is brought up to date as a whole or not at all, whatever befalls on the way. If that
fails, nothing has changed. If it succeeds, the products are those that were there, and to do it
again changes nothing. A database of the first version gets the lowercase of each name, unless
something befalls. A database of a later version is refused. -/
theorem bringUpToDate_whole (before : Database) (distinct : (before.rows.map (·.id)).Nodup)
    (mishaps : List (Option EngineFault)) :
    let run := bringUpToDate { stored := before, mishaps }
    (∀ fault, run.1 = .error fault → run.2.stored = before) ∧
    (run.1 = .ok () →
      run.2.stored.version = .number 2 ∧ run.2.stored.rows = before.rows ∧
      ∀ later, let again := bringUpToDate { stored := run.2.stored, mishaps := later }
        again.2.stored = run.2.stored ∧ ∀ fault, again.1 = .error fault → fault.ComesOf later) ∧
    (∀ rows lastId checked, before = ⟨.number 1, some ⟨.plain rows, lastId, checked⟩⟩ →
      (run.1 = .ok () ∧ run.2.stored =
        ⟨.number 2, some ⟨.folded (rows.map fun row => ⟨row, foldName row.name⟩),
          lastId, checked⟩⟩) ∨
      ∃ fault, run.1 = .error fault ∧ fault.ComesOf mishaps) ∧
    ∀ version, before.version = .number version → supportedVersion < version →
      ∃ fault, run.1 = .error fault ∧
        (fault.ComesOf mishaps ∨ fault =
          if isReadable version then .migration version "unsupported"
            s!"Database schema version {version} is newer than supported version {supportedVersion}"
          else .engine (.undecodable 0 "out of range integral type conversion attempted")) := by
  intro run
  have ends := bringUpToDate_ends distinct mishaps
  refine ⟨fun fault failed => ends.stored_of_failed failed, ?_, ?_, ?_⟩
  · intro done
    obtain ⟨same, marked⟩ := upgraded_keeps (ends.effect_of_done done)
    refine ⟨marked, same, ?_⟩
    intro later
    exact bringUpToDate_current (same ▸ distinct) marked later
  · rintro rows lastId checked rfl
    exact ends.of_ok
  · intro version marked later
    rw [upgraded_of_number marked, Database.upgradedFrom, if_pos later] at ends
    split <;> rename_i readable
    · rw [if_pos readable] at ends
      exact ends.of_error
    · rw [if_neg readable] at ends
      exact ends.of_error

def shelves : Database where
  version := .number 1
  products := some
    { contents := .plain
        [⟨1, "ÉTAGÈRE Murale", 30.0, 4.5, "ikea", false, 0⟩,
          ⟨5, "Lamp", 10.0, 4.5, "liddy", true, 7⟩]
      lastId := 6
      checked := false }

theorem bringUpToDate_whole_shelves :
    (bringUpToDate { stored := shelves }).2.stored.entries.map (·.foldedName) =
      ["étagère murale", "lamp"] ∧
    (bringUpToDate
      { stored := shelves, mishaps := [none, none, none, none, none, some .crashed] }).2.stored =
        shelves := by
  have distinct : (shelves.rows.map (·.id)).Nodup := by decide
  constructor
  · obtain ⟨_, _, folded, _⟩ := bringUpToDate_whole shelves distinct []
    rcases folded _ _ _ rfl with ⟨_, stored⟩ | ⟨_, _, _, member, _⟩
    · rw [stored]
      rfl
    · cases member
  · obtain ⟨kept, _⟩ := bringUpToDate_whole shelves distinct
      [none, none, none, none, none, some .crashed]
    exact kept (.notFolded .crashed) rfl

end ProductCatalog.Store
