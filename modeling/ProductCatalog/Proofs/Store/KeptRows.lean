import ProductCatalog.Proofs.Outcome
import ProductCatalog.Proofs.Store.Migration
import ProductCatalog.Store.Connection

/-! Bringing a database up to date changes how its products are kept, and never the products. This
holds of every table, whatever befalls the statements. -/

namespace ProductCatalog.Store

variable {α β ε δ : Type}

/-- The products that are stored, and those that an open transaction has, are the given ones. -/
structure Session.Holds (rows : List Row) (session : Session) : Prop where
  stored : session.stored.rows = rows
  current : session.current.rows = rows

/-- Whatever the work comes to, the products are those that were there. -/
def KeepsRows (work : Work ε α) : Prop :=
  ∀ rows session, Session.Holds rows session → Session.Holds rows (work session).2

theorem keepsRows_pure (value : α) : KeepsRows (pure value : Work ε α) :=
  fun _ _ holds => holds

theorem keepsRows_throw (fault : ε) : KeepsRows (throw fault : Work ε α) :=
  fun _ _ holds => holds

theorem KeepsRows.bind {first : Work ε α} {second : α → Work ε β} (begins : KeepsRows first)
    (continues : ∀ value, KeepsRows (second value)) : KeepsRows (first >>= second) := by
  intro rows session holds
  have begun := begins rows session holds
  rw [bind_apply]
  generalize first session = result at begun ⊢
  obtain ⟨fault | value, between⟩ := result
  · exact begun
  · exact continues value rows between begun

theorem KeepsRows.adapt {work : Work ε α} (keeps : KeepsRows work) (wrap : ε → δ) :
    KeepsRows (work.adapt wrap) :=
  keeps

theorem keepsRows_forM {ι : Type} {work : ι → Work ε Unit} (each : ∀ item, KeepsRows (work item))
    (items : List ι) : KeepsRows (items.forM work) := by
  induction items with
  | nil => exact keepsRows_pure ()
  | cons item rest ih => exact (each item).bind fun _ => ih

theorem keepsRows_command {run : Session → Except EngineFault (α × Session)}
    (each : ∀ rows before value after, Session.Holds rows before →
      run before = .ok (value, after) → Session.Holds rows after) :
    KeepsRows (command run) := by
  intro rows session holds
  have reached : Session.Holds rows { session with mishaps := session.mishaps.tail } :=
    ⟨holds.stored, holds.current⟩
  unfold command
  dsimp only
  split
  · exact reached
  · split
    next value after ran => exact each rows _ value after reached ran
    next => exact reached

theorem keepsRows_send {statement : Database → Except EngineFault (α × Database)}
    (each : ∀ before value after, statement before = .ok (value, after) →
      after.rows = before.rows) : KeepsRows (send statement) := by
  apply keepsRows_command
  intro rows before value after holds answered
  unfold Session.answer at answered
  cases stated : statement before.current with
  | error fault =>
      rw [stated] at answered
      cases answered
  | ok outcome =>
      rw [stated] at answered
      cases answered
      have same := (each _ outcome.1 outcome.2 stated).trans holds.current
      obtain ⟨stored, working | _, mishaps⟩ := before
      · exact ⟨same, same⟩
      · exact ⟨holds.stored, same⟩

theorem keepsRows_query (question : Database → Except EngineFault α) :
    KeepsRows (query question) := by
  apply keepsRows_send
  intro before value after asked
  obtain ⟨answer, _, told⟩ := map_eq_ok asked
  cases told
  rfl

theorem keepsRows_execute {statement : Database → Except EngineFault Database}
    (each : ∀ before after, statement before = .ok after → after.rows = before.rows) :
    KeepsRows (execute statement) := by
  apply keepsRows_send
  intro before value after done
  obtain ⟨changed, stated, told⟩ := map_eq_ok done
  obtain ⟨_, rfl⟩ := Prod.mk.inj told
  exact each before changed stated

theorem KeepsRows.transaction {work : Work EngineFault Unit} (keeps : KeepsRows work) :
    KeepsRows (transaction work) := by
  have opens : KeepsRows openTransaction := by
    apply keepsRows_command
    intro rows before value after holds opened
    cases opened
    exact ⟨holds.stored, holds.stored⟩
  have commits : KeepsRows commit := by
    apply keepsRows_command
    intro rows before value after holds committed
    cases committed
    exact ⟨holds.current, holds.current⟩
  intro rows session holds
  have whole := (opens.bind fun _ => keeps.bind fun _ => commits) rows session holds
  unfold Store.transaction
  split
  next after ended =>
    rw [ended] at whole
    exact whole
  next fault after ended =>
    rw [ended] at whole
    exact ⟨whole.stored, whole.stored⟩

theorem rows_withTables (database : Database) : database.withTables.rows = database.rows := by
  obtain ⟨version, _ | table⟩ := database <;> rfl

theorem rows_marked (version : Int) (database : Database) :
    (database.marked version).rows = database.rows := rfl

theorem rows_withFoldedColumn {before after : Database}
    (added : before.withFoldedColumn = .ok after) : after.rows = before.rows := by
  obtain ⟨version, _ | ⟨rows | entries, lastId, checked⟩⟩ := before
  · cases added
  · cases added
    exact (List.map_map ..).trans (List.map_id rows)
  · cases added

theorem row_refold (id : Int) (text : String) (entry : Entry) :
    (entry.refold id text).row = entry.row := by
  unfold Entry.refold
  split <;> rfl

theorem rows_withFoldedName {id : Int} {text : String} {before after : Database}
    (folded : before.withFoldedName id text = .ok after) : after.rows = before.rows := by
  obtain ⟨version, _ | ⟨rows | entries, lastId, checked⟩⟩ := before
  · cases folded
  · cases folded
  · cases folded
    exact (List.map_map ..).trans (List.map_congr_left fun entry _ => row_refold id text entry)

theorem keepsRows_applySchema : KeepsRows applySchema := by
  have tables : KeepsRows (execute fun database => .ok database.withTables) := by
    apply keepsRows_execute
    rintro before _ ⟨⟩
    exact rows_withTables before
  have marks : KeepsRows (execute fun database => .ok (database.marked supportedVersion)) := by
    apply keepsRows_execute
    rintro before _ ⟨⟩
    exact rows_marked supportedVersion before
  exact (tables.bind fun _ => marks).transaction

theorem keepsRows_addFoldedNames : KeepsRows addFoldedNames := by
  have column : KeepsRows (execute Database.withFoldedColumn) :=
    keepsRows_execute fun _ _ => rows_withFoldedColumn
  have names (named : Int × String) :
      KeepsRows (execute (Database.withFoldedName named.1 (foldName named.2))) :=
    keepsRows_execute fun _ _ => rows_withFoldedName
  have marks : KeepsRows (execute fun database => .ok (database.remarked 2)) := by
    apply keepsRows_execute
    rintro before _ ⟨⟩
    exact rows_remarked 2 before
  exact (column.bind fun _ => (keepsRows_query _).bind fun found =>
    (keepsRows_forM names found).bind fun _ => marks).transaction

theorem keepsRows_applyMigration (version : Int) : KeepsRows (applyMigration version) := by
  unfold applyMigration
  split
  · exact keepsRows_addFoldedNames.adapt _
  · exact keepsRows_throw _

theorem keepsRows_bringUpToDate : KeepsRows bringUpToDate := by
  apply ((keepsRows_query _).adapt _).bind
  intro isTracked
  cases isTracked with
  | false => exact keepsRows_applySchema.adapt _
  | true =>
      apply ((keepsRows_query _).adapt _).bind
      intro marked
      dsimp only
      split
      · exact keepsRows_throw _
      split
      · exact keepsRows_applySchema.adapt _
      · exact keepsRows_forM keepsRows_applyMigration _

theorem rows_ofDatabase {database : Database} {connection : Connection}
    (connected : Connection.ofDatabase database = .ok connection) :
    connection.database.rows = database.rows := by
  obtain ⟨migrated, done, rfl⟩ := map_eq_ok connected
  have kept := (keepsRows_bringUpToDate database.rows { stored := database } ⟨rfl, rfl⟩).stored
  obtain ⟨_, _, rfl⟩ := map_eq_ok done
  exact kept

end ProductCatalog.Store
