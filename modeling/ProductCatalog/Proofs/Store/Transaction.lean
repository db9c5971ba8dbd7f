import ProductCatalog.Proofs.Store.Step

/-! What work on a database comes to, whatever befalls its statements. Its effect is what it makes
of a database when nothing does. Within a transaction it has that effect or fails; and a
transaction has the whole effect or none. -/

namespace ProductCatalog.Store

variable {α β : Type}

/-- What work makes of a database, with its outcome, when nothing befalls it. -/
abbrev Effect := StateT Database (Except EngineFault)

/-- How work ends in a transaction that it has not opened. It may leave half of its effect there,
but nothing of it is stored. -/
inductive EndsWithin (stored : Database) (mishaps : List (Option EngineFault))
    (effect : Except EngineFault (α × Database)) : Except EngineFault α × Session → Prop
  | failed {fault left rest} : some fault ∈ mishaps ∨ effect = .error fault →
      EndsWithin stored mishaps effect (.error fault, ⟨stored, some left, rest⟩)
  | done {value after rest} : effect = .ok (value, after) → rest ⊆ mishaps →
      EndsWithin stored mishaps effect (.ok value, ⟨stored, some after, rest⟩)

def Performs (work : Work EngineFault α) (effect : Effect α) : Prop :=
  ∀ stored database mishaps,
    EndsWithin stored mishaps (effect database) (work ⟨stored, some database, mishaps⟩)

theorem performs_pure (value : α) : Performs (pure value) (pure value) :=
  fun _ _ _ => .done rfl (List.Subset.refl _)

theorem Performs.bind {first : Work EngineFault α} {second : α → Work EngineFault β}
    {effect : Effect α} {next : α → Effect β} (begins : Performs first effect)
    (continues : ∀ value, Performs (second value) (next value)) :
    Performs (first >>= second) (effect >>= next) := by
  intro stored database mishaps
  have sequence : (effect >>= next) database =
      effect database >>= fun outcome => next outcome.1 outcome.2 := rfl
  rw [bind_apply, sequence]
  have begun := begins stored database mishaps
  generalize first ⟨stored, some database, mishaps⟩ = result at begun ⊢
  cases begun with
  | failed cause =>
      apply EndsWithin.failed
      rcases cause with mishap | failure
      · exact Or.inl mishap
      · right
        rw [failure]
        rfl
  | @done value between rest effected kept =>
      have continued := continues value stored between rest
      rw [effected]
      change EndsWithin _ _ (next value between) (second value ⟨stored, some between, rest⟩)
      generalize second value ⟨stored, some between, rest⟩ = result at continued ⊢
      cases continued with
      | failed cause => exact .failed (cause.imp_left (kept ·))
      | done effected fewer => exact .done effected (List.Subset.trans fewer kept)

theorem performs_forM {ι : Type} {work : ι → Work EngineFault Unit} {effect : ι → Effect Unit}
    (each : ∀ item, Performs (work item) (effect item)) (items : List ι) :
    Performs (items.forM work) (items.forM effect) := by
  induction items with
  | nil => exact performs_pure ()
  | cons item rest ih => exact (each item).bind fun _ => ih

theorem command_apply (run : Session → Except EngineFault (α × Session)) (session : Session) :
    let reached := { session with mishaps := session.mishaps.tail }
    (∃ fault, some fault ∈ session.mishaps ∧ command run session = (.error fault, reached)) ∨
      command run session =
        match run reached with
        | .ok (value, after) => (.ok value, after)
        | .error fault => (.error fault, reached) := by
  obtain ⟨stored, working, mishaps⟩ := session
  rcases mishaps with _ | ⟨_ | fault, rest⟩
  · exact Or.inr rfl
  · exact Or.inr rfl
  · exact Or.inl ⟨fault, List.mem_cons_self, rfl⟩

theorem performs_send (statement : Effect α) : Performs (send statement) statement := by
  intro stored database mishaps
  rcases command_apply (Session.answer statement) ⟨stored, some database, mishaps⟩ with
    ⟨fault, member, failed⟩ | reached
  · rw [send, failed]
    exact .failed (Or.inl member)
  · rw [send, reached]
    simp only [Session.answer, Session.current, Option.getD_some]
    cases effect : statement database with
    | error fault => exact .failed (Or.inr rfl)
    | ok outcome => exact .done rfl (List.tail_sublist mishaps).subset

def Effect.change (statement : Database → Except EngineFault Database) : Effect Unit :=
  fun database => (statement database).map ((), ·)

def Effect.ask (question : Database → Except EngineFault α) : Effect α :=
  fun database => (question database).map (·, database)

theorem performs_execute (statement : Database → Except EngineFault Database) :
    Performs (execute statement) (.change statement) :=
  performs_send _

theorem performs_query (question : Database → Except EngineFault α) :
    Performs (query question) (.ask question) :=
  performs_send _

/-- How work ends outside of transactions. It has its whole effect, or it fails and what is stored
is as it was; then the effect fails so, or the fault tells of something that befell. -/
inductive Ends {ε : Type} (tells : ε → EngineFault → Prop) (stored : Database)
    (mishaps : List (Option EngineFault)) (effect : Except ε Database) :
    Except ε Unit × Session → Prop
  | failed {fault rest} :
      (∃ mishap, some mishap ∈ mishaps ∧ tells fault mishap) ∨ effect = .error fault →
      Ends tells stored mishaps effect (.error fault, ⟨stored, none, rest⟩)
  | done {after rest} : effect = .ok after →
      Ends tells stored mishaps effect (.ok (), ⟨after, none, rest⟩)

section Ends

variable {ε : Type} {tells : ε → EngineFault → Prop} {stored : Database}
  {mishaps : List (Option EngineFault)} {effect : Except ε Database}
  {result : Except ε Unit × Session}

theorem Ends.stored_of_failed (ends : Ends tells stored mishaps effect result) {fault : ε}
    (failed : result.1 = .error fault) : result.2.stored = stored := by
  cases ends with
  | failed cause => rfl
  | done effected => cases failed

theorem Ends.effect_of_done (ends : Ends tells stored mishaps effect result)
    (done : result.1 = .ok ()) : effect = .ok result.2.stored := by
  cases ends with
  | failed cause => cases done
  | done effected => exact effected

theorem Ends.of_ok {after : Database} (ends : Ends tells stored mishaps (.ok after) result) :
    (result.1 = .ok () ∧ result.2.stored = after) ∨
      ∃ fault, result.1 = .error fault ∧ ∃ mishap, some mishap ∈ mishaps ∧ tells fault mishap := by
  cases ends with
  | failed cause =>
      rcases cause with befell | ⟨⟨⟩⟩
      exact Or.inr ⟨_, rfl, befell⟩
  | done effected =>
      cases effected
      exact Or.inl ⟨rfl, rfl⟩

theorem Ends.of_error {refused : ε} (ends : Ends tells stored mishaps (.error refused) result) :
    ∃ fault, result.1 = .error fault ∧
      ((∃ mishap, some mishap ∈ mishaps ∧ tells fault mishap) ∨ fault = refused) := by
  cases ends with
  | failed cause =>
      refine ⟨_, rfl, ?_⟩
      rcases cause with befell | failure
      · exact Or.inl befell
      · exact Or.inr (Except.error.inj failure).symm
  | done effected => cases effected

theorem Ends.mono {more : List (Option EngineFault)}
    (ends : Ends tells stored mishaps effect result) (wider : mishaps ⊆ more) :
    Ends tells stored more effect result := by
  cases ends with
  | failed cause =>
      apply Ends.failed
      rcases cause with ⟨mishap, member, told⟩ | failure
      · exact Or.inl ⟨mishap, wider member, told⟩
      · exact Or.inr failure
  | done effected => exact .done effected

end Ends

/-- A transaction is made as a whole or not at all. -/
theorem transaction_ends {work : Work EngineFault Unit} {effect : Effect Unit}
    (performs : Performs work effect) (stored : Database)
    (mishaps : List (Option EngineFault)) :
    Ends (· = ·) stored mishaps ((effect stored).map Prod.snd)
      (transaction work ⟨stored, none, mishaps⟩) := by
  unfold transaction
  rw [bind_apply]
  rcases command_apply (fun session => .ok ((), session.opened)) ⟨stored, none, mishaps⟩ with
    ⟨fault, member, failed⟩ | opened
  · rw [openTransaction, failed]
    exact .failed (Or.inl ⟨fault, member, rfl⟩)
  -- from here on a fault ends in `rolledBack`, so half of an effect in the transaction is no matter
  rw [openTransaction, opened]
  simp only [bind_apply, Session.opened]
  have performed := performs stored stored mishaps.tail
  generalize work ⟨stored, some stored, mishaps.tail⟩ = result at performed ⊢
  have later := (List.tail_sublist mishaps).subset
  cases performed with
  | failed cause =>
      apply Ends.failed
      rcases cause with mishap | failure
      · exact Or.inl ⟨_, later mishap, rfl⟩
      · right
        rw [failure]
        rfl
  | @done value after rest effected kept =>
      -- the work is done, but it counts only if the commit is not befallen itself
      rcases command_apply (fun session => .ok ((), session.committed))
          ⟨stored, some after, rest⟩ with ⟨fault, member, failed⟩ | committed
      · simp only [commit, failed]
        exact .failed (Or.inl ⟨fault, later (kept member), rfl⟩)
      · simp only [commit, committed]
        apply Ends.done
        rw [effected]
        rfl

end ProductCatalog.Store
