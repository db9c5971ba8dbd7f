import ProductCatalog.Catalog.Service
import ProductCatalog.Proofs.Store.Step

/-! What a load that fails leaves behind. Removing the old products and adding the new ones are two
steps: each of them is made as a whole or not at all, but both together are not. -/

namespace ProductCatalog.Catalog

open Store (Action Connection Database Fault)

theorem load_kept (now : Int) (products : List NewProduct) :
    load now products true = Store.insertAll now products := rfl

theorem load_replacing (now : Int) (products : List NewProduct) :
    load now products false = Store.clear >>= fun _ => Store.insertAll now products := rfl

theorem load_replacing_failed {now : Int} {products : List NewProduct}
    {connection after : Connection} {fault : Fault}
    (failed : load now products false connection = (.error fault, after)) :
    after = (Store.clear connection).2 := by
  rw [load_replacing, Store.bind_apply] at failed
  rcases outcome : Store.clear connection with ⟨fault | removed, between⟩
  · rw [outcome] at failed
    exact (Prod.mk.inj failed).2.symm
  · rw [outcome] at failed
    exact Store.change_failed failed

theorem rows_clear (connection : Connection) :
    (Store.clear connection).2.database.rows =
      if connection.isOpen then [] else connection.database.rows := by
  obtain ⟨⟨version, products⟩, isOpen⟩ := connection
  cases isOpen with
  | false => rfl
  | true =>
      cases products with
      | none => rfl
      | some table =>
          cases contents : table.contents <;>
            simp [Store.clear, Store.change, Database.clear, Database.rows, Store.Table.rows,
              Store.Contents.clear, Store.Contents.rows, contents]

/-- A load that fails adds nothing. With the old products to be kept it changes nothing at all; with
the old products to be replaced it leaves what their removal has left, which is no product unless
the connection is closed. -/
theorem load_failed (now : Int) (products : List NewProduct) (keep : Bool)
    (connection after : Connection) (fault : Fault)
    (failed : load now products keep connection = (.error fault, after)) :
    after = (if keep then connection else (Store.clear connection).2) ∧
      after.database.rows =
        if keep = false ∧ connection.isOpen then [] else connection.database.rows := by
  cases keep with
  | true =>
      rw [load_kept] at failed
      have same : after = connection := Store.change_failed failed
      exact ⟨same, congrArg (·.database.rows) same⟩
  | false =>
      have same : after = (Store.clear connection).2 := load_replacing_failed failed
      refine ⟨same, ?_⟩
      rw [same, rows_clear]
      simp

def lampStore : Connection :=
  (load 0 [{ name := "Lamp", price := 10.0, company := "ikea" }] true
    ⟨Database.empty.initialized, true⟩).2

def foreignCrate : NewProduct :=
  { name := "Crate", price := 5.0, company := "acme" }

theorem load_failed_lamp :
    load 0 [foreignCrate] false lampStore =
        (.error (.ofRefusal .unsupportedCompany), (Store.clear lampStore).2) ∧
      lampStore.database.rows.length = 1 ∧ (Store.clear lampStore).2.database.rows = [] := by
  have failed : load 0 [foreignCrate] false lampStore =
      (.error (.ofRefusal .unsupportedCompany), (Store.clear lampStore).2) := by rfl
  exact ⟨failed, by decide,
    (load_failed 0 [foreignCrate] false lampStore _ _ failed).2⟩

/-- A load that fails may lose the products that were there. -/
theorem load_not_atomic :
    ¬∀ (now : Int) (products : List NewProduct) (keep : Bool) (connection after : Connection)
        (fault : Fault), load now products keep connection = (.error fault, after) →
      after.database.rows = connection.database.rows := by
  intro atomic
  have same := atomic 0 [foreignCrate] false lampStore (Store.clear lampStore).2
    (.ofRefusal .unsupportedCompany) (by rfl)
  exact absurd same (by decide)

end ProductCatalog.Catalog
