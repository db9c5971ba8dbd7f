import ProductCatalog.CommandLine.Run
import ProductCatalog.Proofs.Catalog.SeedReading
import ProductCatalog.Proofs.Files.Products

/-! Runs that are to load products from a file. Whatever ends such a run before the load begins, the
products of every database are those that were there. -/

namespace ProductCatalog.CommandLine

open Config (Environment Overrides Settings)
open Files (Tree)

theorem files_withVariableFile (environment : Environment) :
    environment.withVariableFile.files = environment.files := by
  unfold Config.Environment.withVariableFile
  split <;> rfl

theorem surroundings_withVariableFile (environment : Environment) :
    environment.withVariableFile.surroundings = environment.surroundings := by
  unfold Config.Environment.withVariableFile
  split <;> rfl

theorem prepareDataDirectory_sameProducts (environment : Environment) :
    Tree.SameProducts environment.files (Config.prepareDataDirectory environment).2.files :=
  environment.files.createDirectories_sameProducts _

theorem prepare_sameProducts (environment : Environment) (overrides : Overrides) :
    Tree.SameProducts environment.files (prepare environment overrides).2 := by
  have leading := prepareDataDirectory_sameProducts environment
  unfold prepare
  split
  next => exact .refl _
  next settings loaded =>
    split
    next fault after failed =>
      rw [failed] at leading
      exact leading
    next directory after prepared =>
      rw [prepared] at leading
      have opened := after.files.openDatabase_sameProducts
        (Config.databasePath settings directory)
      dsimp only
      split <;> rename_i same <;> rw [same] at opened <;> exact leading.trans opened

theorem exitCode_of_prepare {environment : Environment} {overrides : Overrides} {fault : Fault}
    {files : Tree} (failed : prepare environment overrides = (.error fault, files)) :
    fault.exitCode = 1 := by
  unfold prepare at failed
  split at failed
  · cases failed
    rfl
  split at failed
  · cases failed
    rfl
  dsimp only at failed
  split at failed <;> cases failed
  rfl

theorem run_of_arguments {environment : Environment} {words : List String} {arguments : Arguments}
    (read : Arguments.ofWords environment.withVariableFile.bindings words = .ok arguments)
    (now : Int) :
    run now environment words = execute now environment.withVariableFile arguments := by
  unfold run
  dsimp only
  rw [read]

section Seed

variable {now : Int} {environment : Environment} {overrides : Overrides} {file : String}
  {keep : Bool}

theorem execute_of_unprepared {fault : Fault} {files : Tree}
    (failed : prepare environment overrides = (.error fault, files)) (command : Option Command) :
    execute now environment ⟨overrides, command⟩ = (.error fault, files) := by
  unfold execute
  dsimp only
  rw [failed]

theorem execute_of_bad_settings {fault : Config.Fault}
    (failed : Settings.load environment overrides = .error fault) (command : Option Command) :
    execute now environment ⟨overrides, command⟩ =
      (.error (.settings fault), environment.files) := by
  have stopped : prepare environment overrides = (.error (.settings fault), environment.files) := by
    unfold prepare
    rw [failed]
  exact execute_of_unprepared stopped command

theorem execute_seed {startup : Startup} {files : Tree}
    (prepared : prepare environment overrides = (.ok startup, files)) :
    execute now environment ⟨overrides, some (.seed file keep)⟩ =
      seed now { environment with files } startup file keep := by
  unfold execute
  dsimp only
  rw [prepared]

theorem seed_of_spoiled {startup : Startup} {fault : Catalog.SeedFault}
    (spoiled : Catalog.IsSpoiled environment.files environment.surroundings.current ⟨file⟩ fault) :
    seed now environment startup file keep = (.error (.seedFile fault), environment.files) := by
  unfold seed
  rw [Catalog.readSeedFile_spoiled spoiled]

/-- A seed of a spoiled file fails, if not before the file is read, then by what is wrong with it.
-/
theorem execute_seed_spoiled {fault : Catalog.SeedFault}
    (spoiled : Catalog.IsSpoiled (prepare environment overrides).2
      environment.surroundings.current ⟨file⟩ fault) :
    ∃ failure, execute now environment ⟨overrides, some (.seed file keep)⟩ =
        (.error failure, (prepare environment overrides).2) ∧
      ∀ startup, (prepare environment overrides).1 = .ok startup → failure = .seedFile fault := by
  rcases prepared : prepare environment overrides with ⟨stopped | startup, files⟩
  · refine ⟨stopped, execute_of_unprepared prepared _, ?_⟩
    rintro startup ⟨⟩
  · rw [prepared] at spoiled
    refine ⟨.seedFile fault, ?_, fun _ _ => rfl⟩
    rw [execute_seed prepared]
    exact seed_of_spoiled spoiled

/-- A seed that fails has failed in the load, or all products are those that were there. -/
theorem execute_seed_failed {fault : Fault} {files : Tree}
    (ended : execute now environment ⟨overrides, some (.seed file keep)⟩ = (.error fault, files)) :
    fault.exitCode = 1 ∧
      ((∃ cause, fault = .load cause) ∨ Tree.SameProducts environment.files files) := by
  have leading := prepare_sameProducts environment overrides
  rcases prepared : prepare environment overrides with ⟨stopped | startup, between⟩
  · unfold execute at ended
    dsimp only at ended
    rw [prepared] at ended leading
    cases ended
    exact ⟨exitCode_of_prepare prepared, Or.inr leading⟩
  · rw [execute_seed prepared, seed] at ended
    rw [prepared] at leading
    dsimp only at ended
    split at ended
    · cases ended
      exact ⟨rfl, Or.inr leading⟩
    · obtain ⟨outcome, _⟩ := Prod.mk.inj ended
      split at outcome
      · cases outcome
      · cases outcome
        exact ⟨rfl, Or.inl ⟨_, rfl⟩⟩

end Seed

/-- A run that is to load products leaves no trace where the settings are at fault. Where the file
cannot be read, is no list of products, or lists an invalid one, the run fails, and says so if
nothing has failed before. Whatever fails before the load, every database has the products that it
had. What a file gives is the whole list where all products are valid, and otherwise the fault of
the first that is not. -/
theorem seed_harmless (now : Int) (environment : Environment) (words : List String)
    {overrides : Overrides} {file : String} {keep : Bool}
    (asked : Arguments.ofWords environment.withVariableFile.bindings words =
      .ok ⟨overrides, some (.seed file keep)⟩) :
    let current := environment.surroundings.current
    let prepared := prepare environment.withVariableFile overrides
    (∀ fault, Settings.load environment.withVariableFile overrides = .error fault →
      run now environment words = (.error (.settings fault), environment.files)) ∧
    (∀ fault, Catalog.IsSpoiled prepared.2 current ⟨file⟩ fault →
      ∃ failure, run now environment words = (.error failure, prepared.2) ∧
        (∀ startup, prepared.1 = .ok startup → failure = .seedFile fault) ∧
        Tree.SameProducts environment.files prepared.2) ∧
    (∀ fault files, run now environment words = (.error fault, files) →
      fault.exitCode = 1 ∧
        ((∀ cause, fault ≠ .load cause) → Tree.SameProducts environment.files files)) ∧
    ∀ (files : Tree) path text products, files.readText current path = .ok text →
      Json.decode Catalog.productsOfNode text = .ok products →
      (Catalog.readSeedFile files current path = .ok products ↔
        ∀ product ∈ products, Catalog.IsValid product) ∧
      ((¬∀ product ∈ products, Catalog.IsValid product) →
        ∃ index product, Catalog.FirstInvalid products index product ∧
          Catalog.readSeedFile files current path = .error (.invalid index product)) := by
  intro current prepared
  have carriedOut := run_of_arguments asked now
  refine ⟨?_, ?_, ?_, ?_⟩
  · intro fault failed
    rw [carriedOut, execute_of_bad_settings failed, files_withVariableFile]
  · intro fault spoiled
    have same := surroundings_withVariableFile environment
    obtain ⟨failure, ended, named⟩ := execute_seed_spoiled (by rw [same]; exact spoiled)
    have kept := prepare_sameProducts environment.withVariableFile overrides
    rw [files_withVariableFile] at kept
    exact ⟨failure, carriedOut.trans ended, named, kept⟩
  · intro fault files ended
    rw [carriedOut] at ended
    obtain ⟨failure, ⟨cause, loading⟩ | kept⟩ := execute_seed_failed ended
    · exact ⟨failure, fun before_load => absurd loading (before_load cause)⟩
    · rw [files_withVariableFile] at kept
      exact ⟨failure, fun _ => kept⟩
  · intro files path text products read decoded
    rcases Catalog.readSeedFile_cases read decoded with
      ⟨given, valid⟩ | ⟨index, product, first, refused⟩
    · exact ⟨⟨fun _ => valid, fun _ => given⟩, fun not_all => absurd valid not_all⟩
    · have spoiled := first.not_all_valid
      refine ⟨⟨?_, fun valid => absurd valid spoiled⟩, fun _ => ⟨index, product, first, refused⟩⟩
      intro given
      cases given.symm.trans refused

def lampShelf : Store.Database where
  version := .number 2
  products := some
    { contents := .folded [⟨⟨1, "Lamp", 10.0, 4.5, "ikea", false, 0⟩, "lamp"⟩]
      lastId := 1 }

def chest (name : String) : NewProduct :=
  { name, price := 5.0, company := "liddy" }

def chestText : String :=
  "[[\"Chest\", 5.0, 4.5, \"liddy\"], [\"\", 5.0, 4.5, \"liddy\"]]"

/-- A database with one product, and a seed file whose second product has no name. -/
def workshop : Environment where
  surroundings := ⟨⟨"/home"⟩, ⟨"/work"⟩⟩
  files :=
    ⟨[(["home"], .directory), (["work"], .directory), (["work", "x.db"], .database lampShelf),
      (["work", "seed.json"], .file (Text.Utf8.encode chestText.toList))]⟩

def workshopStartup : Startup where
  settings := ⟨"127.0.0.1", 3000, some ⟨"/work/x.db"⟩⟩
  database := ⟨"/work/x.db"⟩
  connection := ⟨lampShelf, true⟩

theorem seed_harmless_workshop :
    let after := run 0 workshop ["seed", "seed.json", "-d", "x.db"]
    after.1 = .error (.seedFile (.invalid 1 (chest ""))) ∧
    after.2.rowsAt ["work", "x.db"] = lampShelf.rows := by
  intro after
  have asked : Arguments.ofWords workshop.withVariableFile.bindings
      ["seed", "seed.json", "-d", "x.db"] =
        .ok ⟨{ database := some "x.db" }, some (.seed "seed.json" false)⟩ :=
    toOption_eq_some (by decide +kernel)
  obtain ⟨_, spoils, _, _⟩ := seed_harmless 0 workshop ["seed", "seed.json", "-d", "x.db"] asked
  have prepared : (prepare workshop.withVariableFile { database := some "x.db" }).1 =
      .ok workshopStartup :=
    toOption_eq_some (by decide +kernel)
  have spoiled : Catalog.IsSpoiled
      (prepare workshop.withVariableFile { database := some "x.db" }).2 ⟨"/work"⟩ ⟨"seed.json"⟩
      (.invalid 1 (chest "")) := by
    have read : Files.Tree.readText
        (prepare workshop.withVariableFile { database := some "x.db" }).2 ⟨"/work"⟩ ⟨"seed.json"⟩ =
          .ok chestText :=
      toOption_eq_some (by decide +kernel)
    have decoded : Json.decode Catalog.productsOfNode chestText =
        .ok [chest "Chest", chest ""] :=
      toOption_eq_some (by decide +kernel)
    refine .invalid read decoded ⟨rfl, fun valid => absurd valid.nameLength.1 (by decide), ?_⟩
    intro earlier before other found
    obtain rfl : earlier = 0 := by omega
    cases found
    exact ⟨by decide, by decide, by decide⟩
  obtain ⟨failure, ended, named, kept⟩ := spoils _ spoiled
  obtain rfl := named _ prepared
  refine ⟨congrArg Prod.fst ended, ?_⟩
  have same := kept ["work", "x.db"]
  rw [show after.2 = _ from congrArg Prod.snd ended, same]
  rfl

end ProductCatalog.CommandLine
