import ProductCatalog.Config.DataDirectory
import ProductCatalog.Proofs.Config.Precedence
import ProductCatalog.Proofs.Files.Expansion

/-! The paths that the command line, files and variables give: to the file of settings, to that of
the database, and to the data directory. All of them are taken in the same way. -/

namespace ProductCatalog.Config

open Files (Path)

/-- The path that a text means, as a text. -/
def Environment.settle (environment : Environment) (text : String) : String :=
  (environment.expand text).text

/-- The overrides with the paths that they mean. -/
def Overrides.settled (environment : Environment) (overrides : Overrides) : Overrides :=
  { overrides with
    config := overrides.config.map environment.settle
    database := overrides.database.map environment.settle }

/-- The layer with the path that it means. -/
def Layer.settled (environment : Environment) (layer : Layer) : Layer :=
  { layer with
    database := layer.database.map fun database =>
      { database with path := database.path.map environment.settle } }

theorem Layer.databasePath?_settled (environment : Environment) (layer : Layer) :
    (layer.settled environment).databasePath? = layer.databasePath?.map environment.settle := by
  cases database : layer.database <;> simp [Layer.settled, databasePath?, database]

theorem Settings.database_ofLayers (environment : Environment) (overrides : Overrides)
    (layer : Layer) :
    (ofLayers environment overrides layer).database =
      (overrides.database.map environment.expand <|>
        layer.databasePath?.map environment.expand) := by
  cases database : overrides.database <;> simp [ofLayers, database, Layer.databasePath?]

theorem dataDirectory_given {environment : Environment} {text : String}
    (given : environment.valueOf? "CATALOG_DATA_DIR" = some text) :
    dataDirectory environment = environment.expand text := by
  rw [dataDirectory, given]

/-- Home and current directory are paths from the root, with no blank behind them. -/
structure Environment.Settled (environment : Environment) : Prop where
  home : environment.surroundings.home.Settled
  current : environment.surroundings.current.Settled

namespace Environment.Settled

variable {environment : Environment}

theorem expand (settled : environment.Settled) (text : String) :
    (environment.expand text).Settled :=
  Files.Surroundings.expand_settled settled.home settled.current text

theorem expand_settle (settled : environment.Settled) (text : String) :
    environment.expand (environment.settle text) = environment.expand text :=
  Files.Surroundings.expand_of_settled (settled.expand text)

theorem map_expand_settle (settled : environment.Settled) (text : Option String) :
    (text.map environment.settle).map environment.expand = text.map environment.expand := by
  cases text with
  | none => rfl
  | some text => exact congrArg some (settled.expand_settle text)

theorem ofLayers_overrides (settled : environment.Settled) (overrides : Overrides)
    (layer : Layer) :
    Settings.ofLayers environment (overrides.settled environment) layer =
      Settings.ofLayers environment overrides layer := by
  have database := Settings.database_ofLayers environment (overrides.settled environment) layer
  rw [Overrides.settled, settled.map_expand_settle, ← Settings.database_ofLayers] at database
  exact congrArg
    (fun path => { Settings.ofLayers environment overrides layer with database := path }) database

theorem ofLayers_layer (settled : environment.Settled) (overrides : Overrides) (layer : Layer) :
    Settings.ofLayers environment overrides (layer.settled environment) =
      Settings.ofLayers environment overrides layer := by
  have database := Settings.database_ofLayers environment overrides (layer.settled environment)
  rw [layer.databasePath?_settled, settled.map_expand_settle, ← Settings.database_ofLayers]
    at database
  exact congrArg
    (fun path => { Settings.ofLayers environment overrides layer with database := path }) database

theorem load (settled : environment.Settled) (overrides : Overrides) :
    Settings.load environment (overrides.settled environment) =
      Settings.load environment overrides := by
  have overlay : readOverlay environment (overrides.settled environment).config =
      readOverlay environment overrides.config := by
    cases config : overrides.config with
    | none => simp only [Overrides.settled, config, Option.map_none]
    | some text =>
        simp only [Overrides.settled, config, Option.map_some, readOverlay, settled.expand_settle]
  simp only [Settings.load, overlay, settled.ofLayers_overrides]

end Environment.Settled

/-- What a text means is a path from the root, and that path means itself; blanks around the text do
not count. So nothing changes in the settings, or in where the data is kept, when paths that were
worked out before are given in place of the texts. -/
theorem given_paths_settle {environment : Environment} (settled : environment.Settled) :
    (∀ text, (environment.expand text).isAbsolute = true) ∧
    (∀ text, environment.expand (environment.expand text).text = environment.expand text) ∧
    (∀ before text behind : String, (∀ c ∈ before.toList, Text.isBlank c = true) →
      (∀ c ∈ behind.toList, Text.isBlank c = true) →
      environment.expand (before ++ text ++ behind) = environment.expand text) ∧
    (∀ overrides, Settings.load environment (overrides.settled environment) =
      Settings.load environment overrides) ∧
    (∀ overrides layer, Settings.ofLayers environment overrides (layer.settled environment) =
      Settings.ofLayers environment overrides layer) ∧
    ∀ text (again : Environment), again.surroundings = environment.surroundings →
      environment.valueOf? "CATALOG_DATA_DIR" = some text →
      again.valueOf? "CATALOG_DATA_DIR" = some (environment.expand text).text →
      dataDirectory again = dataDirectory environment := by
  refine ⟨fun text => (settled.expand text).absolute, settled.expand_settle, ?_, settled.load,
    settled.ofLayers_layer, ?_⟩
  · intro before text behind blank_before blank_behind
    exact Files.Surroundings.expand_surrounded blank_before blank_behind text
  · intro text again same given given_again
    have expands (text : String) : again.expand text = environment.expand text := by
      rw [Environment.expand, same, Environment.expand]
    rw [dataDirectory_given given, dataDirectory_given given_again, expands]
    exact settled.expand_settle text

def shop : Environment where
  bindings := [("CATALOG_DATA_DIR", "\u00a0~/ data\n")]
  surroundings := ⟨⟨"/home/user"⟩, ⟨"/srv/shop/"⟩⟩

theorem shop_settled : shop.Settled := by
  refine ⟨⟨by decide +kernel, ?_⟩, ⟨by decide +kernel, ?_⟩⟩
  · rintro c ⟨⟩
    decide
  · rintro c ⟨⟩
    decide

theorem given_paths_settle_shop :
    shop.Settled ∧ dataDirectory shop = ⟨"/home/user/ data"⟩ ∧
      dataDirectory { shop with bindings := [("CATALOG_DATA_DIR", "/home/user/ data")] } =
        ⟨"/home/user/ data"⟩ ∧
      Settings.load shop { database := some "\tstock.db " } =
        Settings.load shop { database := some "/srv/shop/stock.db" } := by
  obtain ⟨-, -, -, load, -, directory⟩ := given_paths_settle shop_settled
  have kept : dataDirectory shop = ⟨"/home/user/ data"⟩ := by decide +kernel
  refine ⟨shop_settled, kept, ?_, ?_⟩
  · rw [← kept]
    exact directory "\u00a0~/ data\n" _ rfl (by decide +kernel) (by decide +kernel)
  · have overrides : Overrides.settled shop { database := some "\tstock.db " } =
        { database := some "/srv/shop/stock.db" } := by decide +kernel
    rw [← overrides]
    exact (load _).symm

/-- A path that begins with a tilde and a slash is the rest of it, added to the home directory, for
the file of settings, for that of the database and for the data directory alike. It leads through
the home directory unless the rest begins with another slash: then the rest is the whole path, and
home is on the way only if the rest itself says so. -/
theorem tilde_paths_lead_home {environment : Environment} {text : String} {rest : List Char}
    (tilde : Text.trim text.toList = '~' :: '/' :: rest) :
    let home := environment.surroundings.homeDirectory
    let name : Path := ⟨String.ofList rest⟩
    let path := home.join name
    (environment.surroundings.home.isAbsolute = true → home = environment.surroundings.home) ∧
    (path.LeadsThrough home ↔ rest.head? ≠ some '/' ∨ name.LeadsThrough home) ∧
    (rest.head? ≠ some '/' → path.names = home.names ++ name.names) ∧
    (rest.head? = some '/' → path = name) ∧
    environment.expand text = path ∧
    readOverlay environment (some text) = (if environment.contains path then
      readLayer environment path else .error (.notFound path)) ∧
    (∀ overrides layer, (overrides.database <|> layer.databasePath?) = some text →
      (Settings.ofLayers environment overrides layer).database = some path) ∧
    (environment.valueOf? "CATALOG_DATA_DIR" = some text → dataDirectory environment = path) := by
  intro home name path
  have expands : environment.expand text = path := Files.Surroundings.expand_beneathHome tilde
  have starts : name.isAbsolute = true ↔ rest.head? = some '/' := by
    rw [Path.isAbsolute, beq_iff_eq, String.toList_ofList]
  have relative : name.isAbsolute = false ↔ rest.head? ≠ some '/' := by
    rw [← Bool.not_eq_true, starts]
  refine ⟨Files.Surroundings.homeDirectory_of_absolute, ?_, ?_, ?_, expands, ?_, ?_, ?_⟩
  · rw [← relative]
    exact Path.join_leadsThrough_iff home name
  · intro no_slash
    exact Path.names_join (relative.mpr no_slash) home
  · intro slash
    exact Path.join_absolute (starts.mpr slash) home
  · rw [readOverlay, expands]
  · intro overrides layer given
    have made : (Settings.ofLayers environment overrides layer).database =
        (overrides.database <|> layer.databasePath?).map environment.expand := rfl
    rw [made, given, Option.map_some, expands]
  · intro given
    rw [dataDirectory_given given, expands]

theorem tilde_paths_lead_home_stock :
    Text.trim " ~/ data/../stock.db\n".toList = "~/ data/../stock.db".toList ∧
      (shop.expand " ~/ data/../stock.db\n").LeadsThrough ⟨"/home/user"⟩ ∧
      (shop.expand " ~/ data/../stock.db\n").names =
        ["home", "user", " data", "..", "stock.db"] := by
  have tilde : Text.trim " ~/ data/../stock.db\n".toList =
      '~' :: '/' :: " data/../stock.db".toList := by decide +kernel
  obtain ⟨home, leads, -, -, expands, -⟩ := @tilde_paths_lead_home shop _ _ tilde
  have at_home := home (by decide +kernel)
  have leads_home := leads.mpr (Or.inl (by decide))
  rw [at_home] at leads_home expands
  rw [expands]
  exact ⟨tilde, leads_home, by decide +kernel⟩

/-- With a second slash a path leaves the home directory. -/
theorem tilde_paths_leave_home :
    Text.trim "~//etc/catalog.db".toList = '~' :: '/' :: "/etc/catalog.db".toList ∧
      shop.expand "~//etc/catalog.db" = ⟨"/etc/catalog.db"⟩ ∧
      ¬(shop.expand "~//etc/catalog.db").LeadsThrough shop.surroundings.home := by
  have expands : shop.expand "~//etc/catalog.db" = ⟨"/etc/catalog.db"⟩ := by decide +kernel
  refine ⟨by decide +kernel, expands, ?_⟩
  rw [expands]
  intro leads
  exact absurd leads.names (by decide +kernel)

end ProductCatalog.Config
