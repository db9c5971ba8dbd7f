/-! What is behind an outcome that is not a fault: all that was done on the way to it succeeded. -/

namespace ProductCatalog

variable {ε α β : Type} {first : Except ε α} {value : β}

theorem ok_bind (value : α) (next : α → Except ε β) : Except.ok value >>= next = next value := rfl

theorem bind_eq_ok {next : α → Except ε β} (done : first >>= next = .ok value) :
    ∃ between, first = .ok between ∧ next between = .ok value := by
  cases first with
  | error fault => cases done
  | ok between => exact ⟨between, rfl, done⟩

theorem map_eq_ok {change : α → β} (done : first.map change = .ok value) :
    ∃ between, first = .ok between ∧ change between = value := by
  cases first with
  | error fault => cases done
  | ok between => exact ⟨between, rfl, Except.ok.inj done⟩

theorem mapError_eq_ok {δ : Type} {change : ε → δ} {outcome : Except ε α} {found : α}
    (done : outcome.mapError change = .ok found) : outcome = .ok found := by
  cases outcome with
  | error fault => cases done
  | ok other => rw [Except.ok.inj done]

theorem toOption_eq_some {found : α} (done : first.toOption = some found) : first = .ok found := by
  cases first with
  | error fault => cases done
  | ok other => rw [Option.some.inj done]

theorem mapM_forall {read : α → Except ε β} {kept : β → Prop}
    (each : ∀ item value, read item = .ok value → kept value) {items : List α} {values : List β}
    (done : items.mapM read = .ok values) : ∀ value ∈ values, kept value := by
  induction items generalizing values with
  | nil =>
      cases done
      exact List.forall_mem_nil _
  | cons item rest ih =>
      rw [List.mapM_cons] at done
      obtain ⟨value, found, later⟩ := bind_eq_ok done
      obtain ⟨others, foundOthers, together⟩ := bind_eq_ok later
      cases together
      exact List.forall_mem_cons.mpr ⟨each item value found, ih foundOthers⟩

end ProductCatalog
