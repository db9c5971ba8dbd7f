import ProductCatalog.Store.Connection

/-! Steps over a connection, one after the other. A step that fails ends what was to be done, and
has changed nothing itself. -/

namespace ProductCatalog.Store

theorem bind_apply {σ ε α β : Type} (first : ExceptT ε (StateM σ) α)
    (second : α → ExceptT ε (StateM σ) β) (before : σ) :
    (first >>= second) before =
      match first before with
      | (.ok value, between) => second value between
      | (.error fault, between) => (.error fault, between) := by
  simp only [bind, ExceptT.bind, ExceptT.mk, StateT.bind]
  rcases first before with ⟨fault | value, between⟩ <;> rfl

/-- A step leaves the connection as it is, or puts its database in the place of the old one. -/
theorem change_cases {α : Type} (step : Database → Except Fault (α × Database))
    (connection : Connection) :
    (change step connection).2 = connection ∨
      ∃ value database, step connection.database = .ok (value, database) ∧
        (change step connection).2 = { connection with database } := by
  unfold change
  split
  · cases outcome : step connection.database with
    | error fault => exact Or.inl rfl
    | ok result => exact Or.inr ⟨result.1, result.2, rfl, rfl⟩
  · exact Or.inl rfl

theorem change_failed {α : Type} {step : Database → Except Fault (α × Database)}
    {connection after : Connection} {fault : Fault}
    (failed : change step connection = (.error fault, after)) : after = connection := by
  unfold change at failed
  split at failed
  · split at failed
    · exact absurd (Prod.mk.inj failed).1 (by simp)
    · exact (Prod.mk.inj failed).2.symm
  · exact (Prod.mk.inj failed).2.symm

theorem change_succeeded {α : Type} {step : Database → Except Fault (α × Database)}
    {connection after : Connection} {value : α}
    (succeeded : change step connection = (.ok value, after)) :
    connection.isOpen = true ∧ after.isOpen = true ∧
      step connection.database = .ok (value, after.database) := by
  unfold change at succeeded
  split at succeeded
  · rename_i isOpen
    split at succeeded
    · rename_i outcome
      cases succeeded
      exact ⟨isOpen, isOpen, outcome⟩
    · cases succeeded
  · cases succeeded

theorem inspect_open {α : Type} (step : Database → Except Fault α) {connection : Connection}
    (isOpen : connection.isOpen = true) :
    inspect step connection = (step connection.database, connection) := by
  rw [inspect, change, if_pos isOpen]
  cases step connection.database <;> rfl

theorem change_closed {α : Type} (step : Database → Except Fault (α × Database))
    {connection : Connection} (closed : connection.isOpen = false) :
    change step connection = (.error (.engine .closed), connection) := by
  simp [change, closed]

end ProductCatalog.Store
