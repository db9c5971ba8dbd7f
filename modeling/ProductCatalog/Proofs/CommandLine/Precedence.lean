import ProductCatalog.Proofs.CommandLine.Flags
import ProductCatalog.Proofs.Config.Precedence

/-! The settings that the program runs with. Each is decided by the command line, a variable, the
file over the profile, the profile or a default, whichever makes it first. -/

namespace ProductCatalog.CommandLine

open Config (Environment Layer OverlaySays Overrides SaysIfPresent Settings firstDefined)

theorem decidedBy_orElse (environment : Environment) (first second : Overrides)
    (overlay profile : Layer) :
    Settings.decidedBy environment (first.orElse second) overlay profile =
      ⟨(firstDefined [first.host, second.host, overlay.host?, profile.host?]).getD "127.0.0.1",
        (firstDefined [first.port, second.port, overlay.port?, profile.port?]).getD 3000,
        (firstDefined [first.database, second.database, overlay.databasePath?,
          profile.databasePath?]).map environment.expand⟩ := by
  have joined {α : Type} (first second : Option α) (others : List (Option α)) :
      firstDefined ((first <|> second) :: others) = firstDefined (first :: second :: others) := by
    cases first <;> rfl
  simp only [Settings.decidedBy, Overrides.orElse, joined]
  rfl

/-- Host, port and database are each the first that is defined, independently of each other: by the
words of the command line, by a variable, by the file over the profile, by the profile, by default.
There are settings exactly if the files that are consulted can be read and make sense, the one that
is asked for being there, and the settings are allowed. To join layers is associative and
idempotent, and the layer that makes no settings is neutral. -/
theorem settings_precedence (environment : Environment) (words : List String)
    {arguments : Arguments} (read : Arguments.ofWords environment.bindings words = .ok arguments) :
    (∃ flags, Arguments.ofWords [] words = .ok ⟨flags, arguments.command⟩ ∧
      let named (name : String) := environment.bindings.lookup name
      let config := firstDefined [flags.config, named "CATALOG_CONFIG"]
      ∀ settings, Settings.load environment arguments.overrides = .ok settings ↔
        ∃ profile overlay,
          SaysIfPresent environment (Config.profilePath environment) profile ∧
          OverlaySays environment config overlay ∧
          settings.host = (firstDefined [flags.host, named "CATALOG_HOST", overlay.host?,
            profile.host?]).getD "127.0.0.1" ∧
          settings.port = (firstDefined [flags.port,
            (named "CATALOG_PORT").bind fun text => readPort? text.toList, overlay.port?,
            profile.port?]).getD 3000 ∧
          settings.database = (firstDefined [flags.database, named "CATALOG_DATABASE",
            overlay.databasePath?, profile.databasePath?]).map environment.expand ∧
          Settings.IsAllowed environment settings) ∧
    (∀ written : Overrides, written.config ≠ some "" → written.database ≠ some "" →
      Arguments.ofWords [] (wordsOf written) = .ok ⟨written, none⟩) ∧
    (∀ first second third : Layer,
      Layer.SameSections ((first.merge second).merge third) (first.merge (second.merge third))) ∧
    ∀ layer : Layer, Layer.SameSections (layer.merge layer) layer ∧
      Layer.SameSections (({} : Layer).merge layer) layer ∧
      Layer.SameSections (layer.merge {}) layer := by
  refine ⟨?_, fun written => ofWords_wordsOf, Layer.sameSections_assoc, fun layer =>
    ⟨layer.sameSections_self, layer.sameSections_empty_left, layer.sameSections_empty_right⟩⟩
  obtain ⟨flags, alone, decided⟩ := readFrom_eq_ok read
  refine ⟨flags, alone, ?_⟩
  intro named config settings
  have sameConfig : arguments.overrides.config = config := by
    rw [decided]
    exact (Config.firstDefined_two _ _).symm
  rw [Settings.load_eq_ok_iff, sameConfig]
  apply exists_congr
  intro profile
  apply exists_congr
  intro overlay
  have fields := decidedBy_orElse environment flags (variableSettings environment.bindings) overlay
    profile
  rw [← decided] at fields
  rw [fields]
  obtain ⟨host, port, database⟩ := settings
  simp only [Settings.mk.injEq, and_assoc]
  rfl

def profileText : String :=
  "\x7b\"server\": \x7b\"host\": \"0.0.0.0\", \"port\": 1\x7d, " ++
    "\"database\": \x7b\"path\": \"p.db\"\x7d\x7d"

def overlayText : String :=
  "\x7b\"server\": \x7b\"port\": 2\x7d, \"database\": \x7b\"path\": \"o.db\"\x7d\x7d"

/-- A profile, a file over it that says nothing of the host, and a variable for the port. -/
def cabin : Environment where
  bindings := [("CATALOG_PORT", "3")]
  surroundings := ⟨⟨"/home"⟩, ⟨"/work"⟩⟩
  files :=
    ⟨[(["home"], .directory), (["home", ".catalog"], .directory), (["work"], .directory),
      (["home", ".catalog", "catalog.json"], .file (Text.Utf8.encode profileText.toList)),
      (["work", "catalog.json"], .file (Text.Utf8.encode overlayText.toList))]⟩

theorem settings_precedence_cabin :
    Settings.load cabin { port := some 3, database := some "f.db" } =
      .ok ⟨"0.0.0.0", 3, some ⟨"/work/f.db"⟩⟩ := by
  have read : Arguments.ofWords cabin.bindings ["-d", "f.db"] =
      .ok ⟨{ port := some 3, database := some "f.db" }, none⟩ := by
    decide +kernel
  obtain ⟨⟨flags, alone, loads⟩, _⟩ := settings_precedence cabin ["-d", "f.db"] read
  have words : Arguments.ofWords [] ["-d", "f.db"] = .ok ⟨{ database := some "f.db" }, none⟩ := by
    decide +kernel
  cases alone.symm.trans words
  have profile : Config.Says cabin ⟨"/home/.catalog/catalog.json"⟩
      { server := some ⟨some "0.0.0.0", some 1⟩, database := some ⟨some "p.db"⟩ } :=
    ⟨profileText, by decide +kernel, by decide +kernel⟩
  have overlay : Config.Says cabin ⟨"catalog.json"⟩
      { server := some ⟨none, some 2⟩, database := some ⟨some "o.db"⟩ } :=
    ⟨overlayText, by decide +kernel, by decide +kernel⟩
  refine (loads _).mpr ⟨_, _, profile, overlay, rfl, ?_, rfl, by decide, by decide, ?_⟩
  · decide
  · rintro _ ⟨⟩
    decide +kernel

end ProductCatalog.CommandLine
