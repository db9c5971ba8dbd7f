import ProductCatalog.CommandLine.Arguments
import ProductCatalog.Proofs.Outcome
import ProductCatalog.Proofs.Query.WrittenNumber

/-! Settings that are made on the command line, and variables that stand in for those that are not.
What the words say does not depend on the variables, and each variable counts for its own setting
only. -/

namespace ProductCatalog.CommandLine

open Config (Overrides Variables)

/-- The settings as the variables make them. -/
def variableSettings (bindings : Variables) : Overrides where
  host := bindings.lookup "CATALOG_HOST"
  port := (bindings.lookup "CATALOG_PORT").bind fun value => readPort? value.toList
  config := bindings.lookup "CATALOG_CONFIG"
  database := bindings.lookup "CATALOG_DATABASE"

theorem checkPath_eq_ok {path found : String} (checked : checkPath path = .ok found) :
    found = path := by
  unfold checkPath at checked
  split at checked
  · cases checked
  · exact (Except.ok.inj checked).symm

namespace Setting

/-- Makes one setting as it is made elsewhere, if it is. -/
def copy (source target : Overrides) : Setting → Overrides
  | host => { target with host := source.host <|> target.host }
  | port => { target with port := source.port <|> target.port }
  | config => { target with config := source.config <|> target.config }
  | database => { target with database := source.database <|> target.database }

theorem makeFromVariable_eq_ok {bindings : Variables} {before after : Overrides}
    {setting : Setting} (made : makeFromVariable bindings before setting = .ok after) :
    after = setting.copy (variableSettings bindings) before := by
  unfold makeFromVariable at made
  cases found : bindings.lookup setting.variableName with
  | none =>
      rw [found] at made
      cases made
      cases setting <;> rw [variableName] at found <;> rw [copy, variableSettings, found] <;> rfl
  | some value =>
      rw [found] at made
      cases setting <;> rw [variableName] at found <;> rw [copy, variableSettings, found]
      case host =>
        cases made
        rfl
      case port =>
        simp only [make] at made
        split at made
        next number read =>
          cases made
          rw [Option.bind_some, read]
          rfl
        next => cases made
      case config =>
        obtain ⟨path, checked, rfl⟩ := map_eq_ok made
        rw [checkPath_eq_ok checked]
        rfl
      case database =>
        obtain ⟨path, checked, rfl⟩ := map_eq_ok made
        rw [checkPath_eq_ok checked]
        rfl

theorem foldlM_makeFromVariable {bindings : Variables} {settings : List Setting}
    {before after : Overrides}
    (made : settings.foldlM (makeFromVariable bindings) before = .ok after) :
    after = settings.foldl (copy (variableSettings bindings)) before := by
  induction settings generalizing before with
  | nil => exact (Except.ok.inj made).symm
  | cons setting rest ih =>
      rw [List.foldlM_cons] at made
      obtain ⟨between, first, others⟩ := bind_eq_ok made
      rw [List.foldl_cons, ← makeFromVariable_eq_ok first]
      exact ih others

end Setting

/-- Where the words leave a setting open, its variable decides. -/
theorem orElse_overridesFrom {bindings : Variables} {given fromVariables : Overrides}
    (made : overridesFrom bindings given = .ok fromVariables) :
    given.orElse fromVariables = given.orElse (variableSettings bindings) := by
  rw [Setting.foldlM_makeFromVariable made]
  generalize variableSettings bindings = source
  obtain ⟨host, port, config, database⟩ := given
  cases host <;> cases port <;> cases config <;> cases database <;>
    simp [Setting.all, Setting.isGiven, Setting.copy, Overrides.orElse]

theorem overridesFrom_nil (given : Overrides) : overridesFrom [] given = .ok {} := by
  unfold overridesFrom
  generalize Setting.all.filter _ = open_
  induction open_ with
  | nil => rfl
  | cons setting rest ih => exact ih

theorem finish_eq_ok {bindings : Variables} {progress : Progress} {said : Said}
    (finished : progress.finish bindings = .ok said) :
    progress.finish [] = .ok ⟨said.progress, {}⟩ ∧
      said.progress.given.orElse said.fromVariables =
        said.progress.given.orElse (variableSettings bindings) := by
  obtain ⟨settled, ended, rest⟩ := bind_eq_ok finished
  obtain ⟨fromVariables, made, returned⟩ := bind_eq_ok rest
  cases returned
  refine ⟨?_, orElse_overridesFrom made⟩
  unfold Progress.finish
  rw [ended]
  change (overridesFrom [] settled.given >>= _) = _
  rw [overridesFrom_nil]
  rfl

theorem readLevel_eq_ok {bindings : Variables} {level : Level} {words : List String} {said : Said}
    (read : readLevel bindings level words = .ok said) :
    readLevel [] level words = .ok ⟨said.progress, {}⟩ ∧
      said.progress.given.orElse said.fromVariables =
        said.progress.given.orElse (variableSettings bindings) := by
  obtain ⟨progress, taken, finished⟩ := bind_eq_ok read
  obtain ⟨flags, decided⟩ := finish_eq_ok finished
  refine ⟨?_, decided⟩
  unfold readLevel
  rw [taken]
  exact flags

theorem orElse_empty (overrides : Overrides) : overrides.orElse {} = overrides := by
  simp [Overrides.orElse]

/-- Two levels make a setting if one of them does, and only then its variable does not count. -/
theorem overrides_joinLevels {source : Overrides} {outer inner : Said} {command : Command}
    (outerVariables : outer.progress.given.orElse outer.fromVariables =
      outer.progress.given.orElse source)
    (innerVariables : inner.progress.given.orElse inner.fromVariables =
      inner.progress.given.orElse source) :
    (joinLevels outer inner command).overrides =
      (joinLevels ⟨outer.progress, {}⟩ ⟨inner.progress, {}⟩ command).overrides.orElse source := by
  have setting {α : Type} {outer inner outerVariable innerVariable source : Option α}
      (outerSame : (outer <|> outerVariable) = (outer <|> source))
      (innerSame : (inner <|> innerVariable) = (inner <|> source)) :
      ((inner <|> outer) <|> innerVariable <|> outerVariable) = ((inner <|> outer) <|> source) := by
    cases inner with
    | some value => rfl
    | none =>
        cases outer with
        | some value => rfl
        | none => simp_all
  rw [joinLevels, joinLevels, orElse_empty, orElse_empty]
  simp only [Overrides.orElse, Overrides.mk.injEq] at outerVariables innerVariables ⊢
  obtain ⟨outerHost, outerPort, outerConfig, outerDatabase⟩ := outerVariables
  obtain ⟨innerHost, innerPort, innerConfig, innerDatabase⟩ := innerVariables
  exact ⟨setting outerHost innerHost, setting outerPort innerPort, setting outerConfig innerConfig,
    setting outerDatabase innerDatabase⟩

/-- The words by themselves say which settings are made; the variables make the others. -/
theorem readFrom_eq_ok {bindings : Variables} {progress : Progress} {words : List String}
    {arguments : Arguments} (read : readFrom bindings progress words = .ok arguments) :
    ∃ flags, readFrom [] progress words = .ok ⟨flags, arguments.command⟩ ∧
      arguments.overrides = flags.orElse (variableSettings bindings) := by
  induction words generalizing progress with
  | nil =>
      obtain ⟨said, finished, returned⟩ := bind_eq_ok read
      cases returned
      obtain ⟨alone, decided⟩ := finish_eq_ok finished
      refine ⟨said.progress.given.orElse {}, ?_, ?_⟩
      · rw [readFrom, alone]
        rfl
      · rw [decided, orElse_empty]
  | cons word rest ih =>
      rw [readFrom] at read ⊢
      split at read
      next => cases read
      next no_help =>
      rw [if_neg no_help]
      split at read
      next start =>
        rw [if_pos start]
        obtain ⟨inner, innerRead, later⟩ := bind_eq_ok read
        obtain ⟨outer, finished, returned⟩ := bind_eq_ok later
        cases returned
        obtain ⟨outerAlone, outerVariables⟩ := finish_eq_ok finished
        obtain ⟨innerAlone, innerVariables⟩ := readLevel_eq_ok innerRead
        refine ⟨_, ?_, overrides_joinLevels outerVariables innerVariables⟩
        rw [outerAlone, innerAlone]
        rfl
      next no_start =>
      rw [if_neg no_start]
      split at read
      next seed =>
        rw [if_pos seed]
        obtain ⟨inner, innerRead, more⟩ := bind_eq_ok read
        obtain ⟨command, asked, later⟩ := bind_eq_ok more
        obtain ⟨outer, finished, returned⟩ := bind_eq_ok later
        cases returned
        obtain ⟨outerAlone, outerVariables⟩ := finish_eq_ok finished
        obtain ⟨innerAlone, innerVariables⟩ := readLevel_eq_ok innerRead
        refine ⟨_, ?_, overrides_joinLevels outerVariables innerVariables⟩
        rw [outerAlone, innerAlone]
        change (seedCommand inner.progress >>= _) = _
        rw [asked]
        rfl
      next no_seed =>
        rw [if_neg no_seed]
        obtain ⟨next, taken, others⟩ := bind_eq_ok read
        rw [taken]
        exact ih others

/-! Settings that are written as words. -/

theorem readPort_toDigits (number : UInt16) :
    readPort? (Nat.toDigits 10 number.toNat) = some number := by
  have digits : ∀ c ∈ Nat.toDigits 10 number.toNat, Decimal.isDigit c = true :=
    fun c => Query.isDigit_of_mem_toDigits
  have unsigned : Decimal.readSign (Nat.toDigits 10 number.toNat) =
      (false, Nat.toDigits 10 number.toNat) := by
    cases text : Nat.toDigits 10 number.toNat with
    | nil => rfl
    | cons c rest =>
        rw [text] at digits
        have digit := digits c List.mem_cons_self
        unfold Decimal.readSign
        split
        next same => exact absurd ((List.cons.inj same).1 ▸ digit) (by decide)
        next same => exact absurd ((List.cons.inj same).1 ▸ digit) (by decide)
        next => rfl
  have small : number.toNat < UInt16.size := number.toNat_lt
  unfold readPort?
  rw [unsigned]
  dsimp only
  rw [Query.digitsValue_toDigits, if_pos, UInt16.ofNat_toNat]
  exact ⟨Nat.toDigits_ne_nil, List.all_eq_true.mpr digits, small, Or.inl rfl⟩

namespace Setting

def word (setting : Setting) (value : String) : String :=
  "--" ++ setting.name ++ "=" ++ value

def value? (overrides : Overrides) : Setting → Option String
  | host => overrides.host
  | port => overrides.port.map fun number => String.ofList (Nat.toDigits 10 number.toNat)
  | config => overrides.config
  | database => overrides.database

theorem ofChars_word (setting : Setting) (value : String) :
    Word.ofChars (setting.word value).toList = .long setting.name (some value) := by
  cases setting <;> simp [word, name, Word.ofChars, valueBehindEquals]

theorem word_not_command (setting : Setting) (value : String) :
    setting.word value ∉ commandWords := by
  intro member
  have begins : (setting.word value).toList.head? = some '-' := by simp [word]
  simp only [commandWords, List.mem_cons, List.not_mem_nil, or_false] at member
  rcases member with same | same | same <;> rw [same] at begins <;> exact absurd begins (by decide)

/-- A setting that was open is made as its word says. -/
theorem makeOnce_value {overrides given : Overrides} {setting : Setting} {value : String}
    (open_ : setting.isGiven given = false) (written : setting.value? overrides = some value)
    (config : overrides.config ≠ some "") (database : overrides.database ≠ some "") :
    setting.makeOnce given value = .ok (setting.copy overrides given) := by
  rw [makeOnce, if_neg (by simp [open_])]
  have kept {path : String} (filled : some path ≠ some "") : checkPath path = .ok path :=
    if_neg fun empty => filled (congrArg some empty)
  cases setting with
  | host =>
      rw [copy, show overrides.host = some value from written]
      rfl
  | port =>
      obtain ⟨number, found, rfl⟩ := Option.map_eq_some_iff.mp written
      rw [make, String.toList_ofList, readPort_toDigits, copy, found]
      rfl
  | config =>
      have found : overrides.config = some value := written
      rw [make, kept (found ▸ config), copy, found]
      rfl
  | database =>
      have found : overrides.database = some value := written
      rw [make, kept (found ▸ database), copy, found]
      rfl

theorem isGiven_copy {overrides given : Overrides} {setting other : Setting}
    (apart : other ≠ setting) :
    other.isGiven (setting.copy overrides given) = other.isGiven given := by
  cases setting <;> cases other <;> first | rfl | exact absurd rfl apart

theorem copy_of_absent {overrides : Overrides} {setting : Setting}
    (absent : setting.value? overrides = none) (given : Overrides) :
    setting.copy overrides given = given := by
  cases setting <;> simp_all [value?, copy]

/-- A level of which nothing but settings was read. -/
def read (given : Overrides) : Progress :=
  { given }

theorem readFrom_word {given : Overrides} {setting : Setting} {value : String} {made : Overrides}
    (makes : setting.makeOnce given value = .ok made) (bindings : Variables) (rest : List String) :
    readFrom bindings (read given) (setting.word value :: rest) =
      readFrom bindings (read made) rest := by
  have apart {command : String} (member : command ∈ commandWords) :
      setting.word value ≠ command := fun same => setting.word_not_command value (same ▸ member)
  have taken : Progress.take .program (read given) (setting.word value) = .ok (read made) := by
    unfold Progress.take
    rw [if_neg (by simp [read]), ofChars_word]
    have known : Level.ofLongName? .program setting.name = some (.setting setting) := by
      cases setting <;> rfl
    simp only [known, Progress.takeSetting, Progress.settle, read]
    change (setting.makeOnce given value >>= _) = _
    rw [makes]
    rfl
  rw [readFrom, if_neg (fun both => apart (by decide) both.2),
    if_neg (fun both => apart (by decide) both.2), if_neg (fun both => apart (by decide) both.2),
    taken]
  rfl

end Setting

/-- The words that make settings. -/
def wordsOf (overrides : Overrides) : List String :=
  Setting.all.filterMap fun setting => (setting.value? overrides).map setting.word

theorem readFrom_words {overrides : Overrides} (config : overrides.config ≠ some "")
    (database : overrides.database ≠ some "") (settings : List Setting) (once : settings.Nodup)
    {given : Overrides} (open_ : ∀ setting ∈ settings, setting.isGiven given = false) :
    readFrom [] (Setting.read given)
        (settings.filterMap fun setting => (setting.value? overrides).map setting.word) =
      .ok ⟨settings.foldl (Setting.copy overrides) given, none⟩ := by
  induction settings generalizing given with
  | nil =>
      have finished : (Setting.read given).finish [] = .ok ⟨Setting.read given, {}⟩ := by
        unfold Progress.finish
        change (overridesFrom [] given >>= _) = _
        rw [overridesFrom_nil]
        rfl
      change readFrom [] (Setting.read given) [] = _
      rw [readFrom, finished]
      change Except.ok (Arguments.mk (given.orElse {}) none) = _
      rw [orElse_empty]
      rfl
  | cons setting rest ih =>
      obtain ⟨apart, others⟩ := List.nodup_cons.mp once
      obtain ⟨here, later⟩ := List.forall_mem_cons.mp open_
      rw [List.foldl_cons]
      cases written : setting.value? overrides with
      | none =>
          rw [List.filterMap_cons_none (by rw [written]; rfl), Setting.copy_of_absent written]
          exact ih others later
      | some value =>
          rw [List.filterMap_cons_some (by rw [written]; rfl),
            Setting.readFrom_word (Setting.makeOnce_value here written config database)]
          apply ih others
          intro other member
          have different : other ≠ setting := by
            rintro rfl
            exact apart member
          rw [Setting.isGiven_copy different]
          exact later other member

/-- Settings that are written as words are read from them. -/
theorem ofWords_wordsOf {overrides : Overrides} (config : overrides.config ≠ some "")
    (database : overrides.database ≠ some "") :
    Arguments.ofWords [] (wordsOf overrides) = .ok ⟨overrides, none⟩ := by
  have unset : ∀ setting ∈ Setting.all, setting.isGiven {} = false := by
    intro setting _
    cases setting <;> rfl
  have read := readFrom_words config database Setting.all (by decide) unset
  have whole : Setting.all.foldl (Setting.copy overrides) {} = overrides := by
    simp [Setting.all, Setting.copy]
  rwa [whole] at read

end ProductCatalog.CommandLine
