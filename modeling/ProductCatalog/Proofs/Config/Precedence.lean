import Mathlib.Tactic.SplitIfs
import ProductCatalog.Config.Settings
import ProductCatalog.Proofs.Outcome

/-! Which of several sources decides a setting. Sections of files are joined setting by setting, so
that each setting is decided by the first source that makes it, whatever the others are about. -/

namespace ProductCatalog.Config

/-- The first value among those that are there. -/
def firstDefined {α : Type} (values : List (Option α)) : Option α :=
  values.findSome? id

theorem firstDefined_two {α : Type} (first second : Option α) :
    firstDefined [first, second] = (first <|> second) := by
  cases first <;> cases second <;> rfl

theorem firstDefined_three {α : Type} (first second third : Option α) :
    firstDefined [first, second, third] = (first <|> second <|> third) := by
  cases first <;> cases second <;> cases third <;> rfl

namespace Layer

variable {σ : Type} {merge : σ → σ → σ}

theorem mergeSection_none_left (merge : σ → σ → σ) (upper : Option σ) :
    mergeSection merge none upper = upper := by
  cases upper <;> rfl

theorem mergeSection_none_right (merge : σ → σ → σ) (lower : Option σ) :
    mergeSection merge lower none = lower := by
  cases lower <;> rfl

theorem mergeSection_assoc
    (assoc : ∀ first second third : σ,
      merge (merge first second) third = merge first (merge second third))
    (first second third : Option σ) :
    mergeSection merge (mergeSection merge first second) third =
      mergeSection merge first (mergeSection merge second third) := by
  rcases first with _ | first
  · rw [mergeSection_none_left, mergeSection_none_left]
  rcases second with _ | second
  · rw [mergeSection_none_right, mergeSection_none_left]
  rcases third with _ | third
  · rw [mergeSection_none_right, mergeSection_none_right]
  exact congrArg some (assoc first second third)

theorem mergeSection_self (idem : ∀ single : σ, merge single single = single)
    (single : Option σ) : mergeSection merge single single = single := by
  rcases single with _ | single
  · rfl
  · exact congrArg some (idem single)

theorem server_assoc (first second third : ServerLayer) :
    (first.merge second).merge third = first.merge (second.merge third) := by
  simp [ServerLayer.merge, Option.or_assoc]

theorem server_self (layer : ServerLayer) : layer.merge layer = layer := by
  simp [ServerLayer.merge]

theorem database_assoc (first second third : DatabaseLayer) :
    (first.merge second).merge third = first.merge (second.merge third) := by
  simp [DatabaseLayer.merge, Option.or_assoc]

theorem database_self (layer : DatabaseLayer) : layer.merge layer = layer := by
  simp [DatabaseLayer.merge]

/-- Both layers make the same settings, in the same sections. -/
structure SameSections (first second : Layer) : Prop where
  server : first.server = second.server
  database : first.database = second.database

theorem sameSections_assoc (first second third : Layer) :
    SameSections ((first.merge second).merge third) (first.merge (second.merge third)) :=
  ⟨mergeSection_assoc server_assoc _ _ _, mergeSection_assoc database_assoc _ _ _⟩

theorem sameSections_self (layer : Layer) : SameSections (layer.merge layer) layer :=
  ⟨mergeSection_self server_self _, mergeSection_self database_self _⟩

theorem sameSections_empty_left (layer : Layer) : SameSections (({} : Layer).merge layer) layer :=
  ⟨mergeSection_none_left ServerLayer.merge _, mergeSection_none_left DatabaseLayer.merge _⟩

theorem sameSections_empty_right (layer : Layer) : SameSections (layer.merge {}) layer :=
  ⟨mergeSection_none_right ServerLayer.merge _, mergeSection_none_right DatabaseLayer.merge _⟩

def host? (layer : Layer) : Option String :=
  layer.server.bind (·.host)

def port? (layer : Layer) : Option UInt16 :=
  layer.server.bind (·.port)

def databasePath? (layer : Layer) : Option String :=
  layer.database.bind (·.path)

theorem bind_mergeSection {α : Type} {setting : σ → Option α}
    (each : ∀ lower upper, setting (merge lower upper) = (setting upper <|> setting lower))
    (lower upper : Option σ) :
    (mergeSection merge lower upper).bind setting =
      (upper.bind setting <|> lower.bind setting) := by
  rcases lower with _ | lower <;> rcases upper with _ | upper
  · rfl
  · simp [mergeSection]
  · rfl
  · exact each lower upper

theorem host?_merge (lower upper : Layer) :
    (lower.merge upper).host? = (upper.host? <|> lower.host?) :=
  bind_mergeSection (fun _ _ => rfl) _ _

theorem port?_merge (lower upper : Layer) :
    (lower.merge upper).port? = (upper.port? <|> lower.port?) :=
  bind_mergeSection (fun _ _ => rfl) _ _

theorem databasePath?_merge (lower upper : Layer) :
    (lower.merge upper).databasePath? = (upper.databasePath? <|> lower.databasePath?) :=
  bind_mergeSection (fun _ _ => rfl) _ _

end Layer

/-- What a file says, if it can be read and makes sense. -/
def Says (environment : Environment) (path : Files.Path) (layer : Layer) : Prop :=
  ∃ text, environment.readText path = .ok text ∧ Layer.ofJson text = .ok layer

/-- What a file says that need not be there. -/
def SaysIfPresent (environment : Environment) (path : Files.Path) (layer : Layer) : Prop :=
  if environment.contains path then Says environment path layer else layer = {}

/-- What the one file over that of the profile says: the file that is asked for, which must be
there, or else the one in the current directory. -/
def OverlaySays (environment : Environment) (config : Option String) (layer : Layer) : Prop :=
  match config with
  | some text =>
    environment.contains (environment.expand text) ∧
      Says environment (environment.expand text) layer
  | none => SaysIfPresent environment fileName layer

theorem readLayer_eq_ok_iff (environment : Environment) (path : Files.Path) (layer : Layer) :
    readLayer environment path = .ok layer ↔ Says environment path layer := by
  unfold readLayer Says
  constructor
  · intro read
    obtain ⟨text, found, parsed⟩ := bind_eq_ok read
    exact ⟨text, mapError_eq_ok found, mapError_eq_ok parsed⟩
  · rintro ⟨text, found, parsed⟩
    rw [found]
    change (Layer.ofJson text).mapError _ = _
    rw [parsed]
    rfl

theorem readLayerIfPresent_eq_ok_iff (environment : Environment) (path : Files.Path)
    (layer : Layer) :
    readLayerIfPresent environment path = .ok layer ↔ SaysIfPresent environment path layer := by
  unfold readLayerIfPresent SaysIfPresent
  split
  · exact readLayer_eq_ok_iff environment path layer
  · rw [Except.ok.injEq]
    exact eq_comm

theorem readOverlay_eq_ok_iff (environment : Environment) (config : Option String)
    (layer : Layer) :
    readOverlay environment config = .ok layer ↔ OverlaySays environment config layer := by
  unfold readOverlay OverlaySays
  cases config with
  | none => exact readLayerIfPresent_eq_ok_iff environment fileName layer
  | some text =>
      dsimp only
      split
      next there => simp [readLayer_eq_ok_iff, there]
      next missing => simp [missing]

namespace Settings

/-- The settings that the program can run with. -/
structure IsAllowed (environment : Environment) (settings : Settings) : Prop where
  host : settings.host ≠ ""
  port : settings.port ≠ 0
  database : ∀ path, settings.database = some path → ¬environment.isDirectory path

theorem check_eq_ok_iff (environment : Environment) (settings found : Settings) :
    check environment settings = .ok found ↔ settings = found ∧ IsAllowed environment settings := by
  unfold check
  split_ifs with emptyHost zeroPort
  · simp only [false_iff]
    rintro ⟨_, allowed⟩
    exact allowed.host emptyHost
  · simp only [false_iff]
    rintro ⟨_, allowed⟩
    exact allowed.port zeroPort
  · obtain ⟨host, port, database | path⟩ := settings
    · simp only [Except.ok.injEq, iff_self_and]
      rintro rfl
      exact ⟨emptyHost, zeroPort, by simp⟩
    · dsimp only
      split
      next directory =>
        simp only [reduceCtorEq, false_iff]
        rintro ⟨_, allowed⟩
        exact allowed.database path rfl directory
      next file =>
        simp only [Except.ok.injEq, iff_self_and]
        rintro rfl
        refine ⟨emptyHost, zeroPort, ?_⟩
        rintro _ ⟨⟩
        exact file

/-- The settings that two layers and what stands over them make, each by the first that makes it. -/
def decidedBy (environment : Environment) (overrides : Overrides) (overlay profile : Layer) :
    Settings where
  host := (firstDefined [overrides.host, overlay.host?, profile.host?]).getD defaultHost
  port := (firstDefined [overrides.port, overlay.port?, profile.port?]).getD defaultPort
  database := (firstDefined
    [overrides.database, overlay.databasePath?, profile.databasePath?]).map environment.expand

theorem ofLayers_merge (environment : Environment) (overrides : Overrides)
    (overlay profile : Layer) :
    ofLayers environment overrides (({} : Layer).merge profile |>.merge overlay) =
      decidedBy environment overrides overlay profile := by
  have host := Layer.host?_merge (({} : Layer).merge profile) overlay
  have port := Layer.port?_merge (({} : Layer).merge profile) overlay
  have database := Layer.databasePath?_merge (({} : Layer).merge profile) overlay
  rw [Layer.host?_merge {} profile] at host
  rw [Layer.port?_merge {} profile] at port
  rw [Layer.databasePath?_merge {} profile] at database
  simp only [decidedBy, firstDefined_three]
  rw [ofLayers, ← Layer.host?, host, ← Layer.port?, port, ← Layer.databasePath?, database]
  simp [Layer.host?, Layer.port?, Layer.databasePath?]

theorem load_eq_ok_iff (environment : Environment) (overrides : Overrides) (settings : Settings) :
    load environment overrides = .ok settings ↔
      ∃ profile overlay, SaysIfPresent environment (profilePath environment) profile ∧
        OverlaySays environment overrides.config overlay ∧
        settings = decidedBy environment overrides overlay profile ∧
        IsAllowed environment settings := by
  unfold load
  constructor
  · intro loaded
    obtain ⟨profile, profileRead, rest⟩ := bind_eq_ok loaded
    obtain ⟨overlay, overlayRead, checked⟩ := bind_eq_ok rest
    obtain ⟨rfl, allowed⟩ := (check_eq_ok_iff _ _ _).mp checked
    rw [ofLayers_merge] at allowed ⊢
    exact ⟨profile, overlay, (readLayerIfPresent_eq_ok_iff _ _ _).mp profileRead,
      (readOverlay_eq_ok_iff _ _ _).mp overlayRead, rfl, allowed⟩
  · rintro ⟨profile, overlay, profileSays, overlaySays, rfl, allowed⟩
    rw [(readLayerIfPresent_eq_ok_iff _ _ _).mpr profileSays]
    change (readOverlay environment overrides.config >>= _) = _
    rw [(readOverlay_eq_ok_iff _ _ _).mpr overlaySays]
    change check _ _ = _
    rw [ofLayers_merge]
    exact (check_eq_ok_iff _ _ _).mpr ⟨rfl, allowed⟩

end Settings

end ProductCatalog.Config
