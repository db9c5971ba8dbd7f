import ProductCatalog.Product.NewProduct
import ProductCatalog.Product.Row
import ProductCatalog.Proofs.Json.RoundTrip
import ProductCatalog.Proofs.Time.RoundTrip

/-! Records of whole products, read as products that are to be added. -/

namespace ProductCatalog

namespace Json

/-- The number is read back from the text that is written for it. -/
def IsReadBack (x : Float) : Prop :=
  decode Node.toNumber (Value.number x).toText = .ok x

theorem IsReadBack.toNumber_tree {x : Float} (read : IsReadBack x) :
    (Value.number x).tree.toNumber = .ok x := by
  rwa [IsReadBack, decode_toText] at read

theorem foldMembers_memberTrees {σ : Type} (take : String → σ → Node → Except Fault σ)
    (members : List (String × Value)) (state : σ) :
    Node.foldMembers take state (Value.memberTrees members) =
      members.foldlM (fun state member => take member.1 state member.2.tree) state := by
  induction members generalizing state with
  | nil => rfl
  | cons member members ih =>
      obtain ⟨key, value⟩ := member
      rw [Value.memberTrees, Node.foldMembers, decodeParts_written, List.foldlM_cons]
      rw [ok_bind]
      exact congrArg (take key state value.tree >>= ·) (funext ih)

end Json

/-- The product to add for another row like this one. -/
def Row.toNewProduct (row : Row) : NewProduct where
  name := row.name
  price := row.price
  rating := row.rating
  company := row.company
  featured := row.featured
  createdAt := some row.createdAt

namespace NewProduct

theorem instant_tree {milliseconds : Int} {text : List Char}
    (written : Time.writeInstant? milliseconds = some text) :
    instant (Json.Value.text (String.ofList text)).tree = .ok milliseconds := by
  rw [Json.Value.tree, instant, Json.decodeParts_written, ok_bind, String.toList_ofList,
    Time.readInstant_written written]
  rfl

theorem value_createdAt {row : Row} {text : List Char}
    (written : Time.writeInstant? row.createdAt = some text) :
    row.value .createdAt = .text (String.ofList text) := by
  -- To unfold by equations would evaluate the text of an instant that is not known.
  delta Row.value
  rw [written]

/-- What is shown of a product, all of it. -/
theorem record_whole {row : Row} {text : List Char}
    (written : Time.writeInstant? row.createdAt = some text) :
    Record.toJson (row.project Field.all) = .record [(Field.id.label, .integer row.id),
      (Field.name.label, .text row.name), (Field.price.label, .number row.price),
      (Field.rating.label, .number row.rating), (Field.company.label, .text row.company),
      (Field.featured.label, .flag row.featured),
      (Field.createdAt.label, .text (String.ofList text))] := by
  have each : Field.all.eraseDups = Field.all := by decide +kernel
  rw [Record.toJson, Row.project, each]
  simp only [Field.all, List.map_cons, List.map_nil, value_createdAt written]
  rfl

theorem ofLabel_label (field : Field) : Field.ofLabel? field.label = some field := by
  cases field <;> decide

theorem once_first {σ α : Type} {name : String} {read : Json.Node → Except Json.Fault α}
    {store : α → σ} {node : Json.Node} {value : α} (found : read node = .ok value) :
    Json.Node.once name none read store node = .ok (store value) := by
  rw [Json.Node.once, found]
  rfl

/-- The record of a whole product is read as that product, if its numbers are read back. -/
theorem ofJson_record {row : Row} {text : List Char}
    (written : Time.writeInstant? row.createdAt = some text) (price : Json.IsReadBack row.price)
    (rating : Json.IsReadBack row.rating) :
    ofJson (Record.toJson (row.project Field.all)).toText = .ok row.toNewProduct := by
  have passed : (Json.Value.integer row.id).tree.pass = .ok () := rfl
  have named (text : String) : (Json.Value.text text).tree.toText = .ok text :=
    Json.decodeParts_written text
  have flagged : (Json.Value.flag row.featured).tree.toFlag = .ok row.featured := rfl
  have timed : Json.Node.optional instant (Json.Value.text (String.ofList text)).tree =
      .ok (some row.createdAt) := congrArg (Except.map some) (instant_tree written)
  rw [ofJson, Json.decode_toText, record_whole written, Json.Value.tree, ofNode,
    Json.foldMembers_memberTrees]
  simp only [List.foldlM_cons, List.foldlM_nil, Given.take, ofLabel_label, passed,
    once_first (named _), once_first price.toNumber_tree, once_first rating.toNumber_tree,
    once_first flagged, once_first timed, Except.map, ok_bind, pure_bind, Json.Node.keepEnding,
    Given.complete, required, Option.getD_some]
  rfl

end NewProduct

end ProductCatalog
