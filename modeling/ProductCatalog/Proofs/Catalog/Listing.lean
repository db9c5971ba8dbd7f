import ProductCatalog.Catalog.Service
import ProductCatalog.Proofs.Query.Projection
import ProductCatalog.Proofs.Query.WrittenNumber
import ProductCatalog.Proofs.Store.Engine
import ProductCatalog.Proofs.Store.Matching
import ProductCatalog.Proofs.Store.Paging
import ProductCatalog.Proofs.Store.Step

/-! What a listing shows, whatever was inserted and cleared before and whatever the client writes: a
page of the products that are asked for, in order and with the fields that are asked for, and how
many of them there are. -/

namespace ProductCatalog.Catalog

open Query (Filter Parameters Policy SortKey)
open Store (Call Connection Contains Database Entry Finds Legible Precedes Refusal Sound Wanted
  openOn run upToDate)

/-- The listing is a page of the wanted products among `rows`, in the order of the keys, with the
shown fields of each, together with their number on all pages. -/
def Presents (wanted : Row → Prop) (keys : List SortKey) (shown : List Field) (page limit : Nat)
    (rows : List Row) (listing : Listing) : Prop :=
  ∃ sequence : List Row,
    (∀ row, row ∈ sequence ↔ row ∈ rows ∧ wanted row) ∧
    sequence.Pairwise (Precedes keys) ∧
    listing.total = sequence.length ∧
    listing.records = ((sequence.drop ((page - 1) * limit)).take limit).map fun row =>
      shown.map fun field => (field, row.value field)

/-- The fields that a client asks for, in the order of the schema: those that are named, and all of
them when none is. -/
def requestedFields (parameters : Parameters) : List Field :=
  let named := Query.namedFields (parameters.fields.getD "").toList
  Field.all.filter fun field => named = [] ∨ field ∈ named

/-- The listing is what the parameters ask for, when `found` says which names a needle finds. -/
def Answers (found : String → String → Prop) (parameters : Parameters) (rows : List Row)
    (listing : Listing) : Prop :=
  let policy := Policy.ofParameters parameters
  Presents (Wanted found parameters) policy.orderKeys (requestedFields parameters)
    policy.page.toNat policy.limit.toNat rows listing

theorem execute_eq (filter : Filter) (policy : Policy) {connection : Connection}
    (isOpen : connection.isOpen = true) :
    execute filter policy connection =
      (do
        let records ← connection.database.find filter policy
        let total ← connection.database.count filter
        return { records, total }, connection) := by
  have found : Store.find filter policy connection =
      (connection.database.find filter policy, connection) := Store.inspect_open _ isOpen
  have counted : Store.count filter connection =
      (connection.database.count filter, connection) := Store.inspect_open _ isOpen
  rw [execute, Store.bind_apply, found]
  cases connection.database.find filter policy with
  | error fault => rfl
  | ok records =>
      simp only [Store.bind_apply, counted]
      cases connection.database.count filter <;> rfl

def widest : UInt32 := 4294967295

theorem Presents.congr {left right : Row → Prop} {keys : List SortKey} {shown : List Field}
    {page limit : Nat} {rows : List Row} {listing : Listing}
    (same : ∀ row ∈ rows, left row ↔ right row)
    (presents : Presents left keys shown page limit rows listing) :
    Presents right keys shown page limit rows listing := by
  obtain ⟨sequence, members, sorted, total, records⟩ := presents
  refine ⟨sequence, ?_, sorted, total, records⟩
  intro row
  rw [members]
  exact and_congr_right (same row)

def lamp : NewProduct :=
  { name := "Lamp", price := 10.0, company := "ikea", createdAt := some 0 }

end ProductCatalog.Catalog
