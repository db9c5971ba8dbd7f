import ProductCatalog.Json.Decode
import ProductCatalog.Store.Table

/-! The text of a database that is up to date, and the way back. The text is a list: a mark, the
version, the greatest identity that was given, and the products, each of them a list of its values.
-/

namespace ProductCatalog.Store.Snapshot

def mark : String := "catalog"

def writeEntry (entry : Entry) : Json.Value :=
  let row := entry.row
  .list [.integer row.id, .text row.name, .text entry.foldedName, .number row.price,
    .number row.rating, .text row.company, .flag row.featured, .integer row.createdAt]

def write (version : Int) (lastId : Nat) (entries : List Entry) : String :=
  (Json.Value.list [.text mark, .integer version, .integer lastId,
    .list (entries.map writeEntry)]).toText

/-- The text of a database. Only a database with names in lowercase has one. -/
def ofDatabase? (database : Database) : Option String :=
  match database with
  | ⟨.number version, some ⟨.folded entries, lastId, true⟩⟩ => some (write version lastId entries)
  | _ => none

def readInteger? : Json.Node → Option Int
  | .numeral numeral =>
    match numeral.quantity with
    | .ok (.integer value) => some value
    | _ => none
  | _ => none

def readEntry? : Json.Node → Option Entry
  | .list [id, name, foldedName, price, rating, company, featured, createdAt] none => do
    let row := {
      id := ← readInteger? id
      name := ← name.toText.toOption
      price := ← price.toNumber.toOption
      rating := ← rating.toNumber.toOption
      company := ← company.toText.toOption
      featured := ← featured.toFlag.toOption
      createdAt := ← readInteger? createdAt }
    return ⟨row, ← foldedName.toText.toOption⟩
  | _ => none

def toDatabase? (text : String) : Option Database :=
  match Json.Document.ofChars text.toList with
  | ⟨.list [first, version, lastId, .list entries none] none, false⟩ => do
    guard (first.toText.toOption = some mark)
    let contents := Contents.folded (← entries.mapM readEntry?)
    let lastId ← readInteger? lastId
    return ⟨.number (← readInteger? version), some { contents, lastId := lastId.toNat }⟩
  | _ => none

end ProductCatalog.Store.Snapshot
