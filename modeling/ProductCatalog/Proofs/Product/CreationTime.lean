import ProductCatalog.Proofs.Product.Record
import ProductCatalog.Proofs.Query.SortText
import ProductCatalog.Proofs.Store.Insertion
import ProductCatalog.Proofs.Store.Step
import ProductCatalog.Proofs.Time.Calendar

/-! Creation times: shown with a product, read with a product that is to be added, and stored. -/

namespace ProductCatalog

namespace NewProduct

def timed (product : NewProduct) (milliseconds : Int) : NewProduct :=
  { product with createdAt := some milliseconds }

def Given.timed (given : Given) (time : Option (Option Int)) : Given :=
  { given with createdAt := time }

theorem once_timed {α : Type} {key : String} {current : Option α}
    {read : Json.Node → Except Json.Fault α} {store changed : α → Given}
    {time : Option (Option Int)} (same : ∀ value, changed value = (store value).timed time)
    (node : Json.Node) : Json.Node.once key current read changed node =
      (Json.Node.once key current read store node).map (·.timed time) := by
  unfold Json.Node.once
  cases current with
  | some value => rfl
  | none =>
      cases read node with
      | error fault => rfl
      | ok value => exact congrArg Except.ok (same value)

/-- A member that is not a creation time is taken in without a look at the creation time. -/
theorem take_timed {key : String} (other : key ≠ Field.createdAt.label) (given : Given)
    (node : Json.Node) (time : Option (Option Int)) :
    Given.take key (given.timed time) node = (Given.take key given node).map (·.timed time) := by
  unfold Given.take
  cases found : Field.ofLabel? key with
  | none => cases node.pass <;> rfl
  | some field =>
      cases field with
      | id => cases node.pass <;> rfl
      | createdAt => exact absurd ((Field.ofLabel_eq_some_iff key _).mp found) other
      | _ =>
          dsimp only
          refine once_timed ?_ node
          exact fun _ => rfl

def Given.takeMember (given : Given) (member : String × Json.Value) : Except Json.Fault Given :=
  Given.take member.1 given member.2.tree

theorem foldlM_timed {members : List (String × Json.Value)}
    (others : ∀ member ∈ members, member.1 ≠ Field.createdAt.label) (given : Given)
    (time : Option (Option Int)) :
    members.foldlM Given.takeMember (given.timed time) =
      (members.foldlM Given.takeMember given).map (·.timed time) := by
  induction members generalizing given with
  | nil => rfl
  | cons member members ih =>
      obtain ⟨other, others⟩ := List.forall_mem_cons.mp others
      rw [List.foldlM_cons, List.foldlM_cons, Given.takeMember, take_timed other]
      change _ = (Given.take member.1 given member.2.tree >>= _).map _
      cases Given.take member.1 given member.2.tree with
      | error fault => rfl
      | ok after => exact ih others after

/-- A creation time may stand anywhere among the members. -/
theorem foldlM_createdAt {before behind : List (String × Json.Value)} {given : Given}
    {shown : Json.Value} {milliseconds : Int}
    (others : ∀ member ∈ before ++ behind, member.1 ≠ Field.createdAt.label)
    (read : Json.Node.optional instant shown.tree = .ok (some milliseconds))
    (absent : given.createdAt = none) :
    (before ++ (Field.createdAt.label, shown) :: behind).foldlM Given.takeMember given =
      ((before ++ behind).foldlM Given.takeMember given).map
        (·.timed (some (some milliseconds))) := by
  induction before generalizing given with
  | nil =>
      have taken : given.takeMember (Field.createdAt.label, shown) =
          .ok (given.timed (some (some milliseconds))) := by
        rw [Given.takeMember, Given.take, ofLabel_label]
        dsimp only
        rw [absent, Json.Node.once, read]
        rfl
      rw [List.nil_append, List.foldlM_cons, taken, ok_bind]
      exact foldlM_timed others given _
  | cons member before ih =>
      obtain ⟨other, others⟩ := List.forall_mem_cons.mp others
      -- There is no creation time yet, and setting it to none shows that none is added.
      have kept := take_timed other given member.2.tree none
      have same : given.timed none = given := by rw [Given.timed, ← absent]
      rw [same] at kept
      rw [List.cons_append, List.cons_append, List.foldlM_cons, List.foldlM_cons]
      rw [Given.takeMember]
      cases taken : Given.take member.1 given member.2.tree with
      | error fault => rfl
      | ok after =>
          rw [taken] at kept
          have still : after.createdAt = none := congrArg Given.createdAt (Except.ok.inj kept)
          exact ih others still

theorem complete_timed (given : Given) (milliseconds : Int) :
    (given.timed (some (some milliseconds))).complete =
      given.complete.map (·.timed milliseconds) := by
  simp only [Given.complete, Given.timed]
  cases required "name" given.name with
  | error fault => rfl
  | ok name =>
      cases required "price" given.price with
      | error fault => rfl
      | ok price => cases required "company" given.company <;> rfl

theorem ofJson_record_eq (members : List (String × Json.Value)) :
    ofJson (Json.Value.record members).toText =
      members.foldlM Given.takeMember {} >>= Given.complete := by
  rw [ofJson, Json.decode_toText, Json.Value.tree, ofNode, Json.foldMembers_memberTrees]
  change (members.foldlM Given.takeMember {} >>= fun given => given.complete) = _
  rfl

/-- A product that is given a creation time is read like one without, but for that time. -/
theorem ofJson_createdAt {before behind : List (String × Json.Value)} {shown : Json.Value}
    {milliseconds : Int}
    (others : ∀ member ∈ before ++ behind, member.1 ≠ Field.createdAt.label)
    (read : Json.Node.optional instant shown.tree = .ok (some milliseconds)) :
    ofJson (Json.Value.record (before ++ (Field.createdAt.label, shown) :: behind)).toText =
      (ofJson (Json.Value.record (before ++ behind)).toText).map (·.timed milliseconds) := by
  rw [ofJson_record_eq, ofJson_record_eq, foldlM_createdAt others read rfl]
  cases (before ++ behind).foldlM Given.takeMember {} with
  | error fault => rfl
  | ok given => exact complete_timed given milliseconds

end NewProduct

namespace Store

theorem firstRefusal_timed (checked : Bool) (lastId : Nat) (products : List NewProduct)
    (milliseconds : Int) : firstRefusal? checked lastId (products.map (·.timed milliseconds)) =
      firstRefusal? checked lastId products := by
  induction products generalizing lastId with
  | nil => rfl
  | cons product products ih =>
      rw [List.map_cons, firstRefusal?, firstRefusal?, ih]
      rfl

theorem createdAt_newEntries (now : Int) (lastId : Nat) (products : List NewProduct) :
    (newEntries now lastId products).map (·.row.createdAt) =
      products.map (·.createdAt.getD now) := by
  induction products generalizing lastId with
  | nil => rfl
  | cons product products ih => exact congrArg (_ :: ·) (ih (lastId + 1))

/-- What is stored of the creation times of new products. -/
theorem createdAt_insertAll {now : Int} {products : List NewProduct} {connection after : Connection}
    {count : Nat} (inserted : insertAll now products connection = (.ok count, after)) :
    after.database.rows.map (·.createdAt) =
      connection.database.rows.map (·.createdAt) ++ products.map (·.createdAt.getD now) := by
  obtain ⟨-, -, done⟩ := change_succeeded inserted
  obtain ⟨database, done, same⟩ := map_eq_ok done
  obtain ⟨-, rfl⟩ := Prod.mk.inj same
  rcases insertAll_cases done with ⟨rfl, unchanged⟩ | ⟨entries, lastId, checked, held, -, stored⟩
  · rw [unchanged, List.map_nil, List.append_nil]
  · rw [Database.rows, Database.rows, held, stored]
    simp only [Option.map_some, Option.getD_some, Table.rows, Contents.rows, List.map_append,
      List.map_map]
    exact congrArg (_ ++ ·) (createdAt_newEntries now lastId products)

/-- Whether products can be stored does not depend on their creation times. -/
theorem insertAll_timed (now : Int) (products : List NewProduct) (milliseconds : Int)
    (connection : Connection) :
    (insertAll now (products.map (·.timed milliseconds)) connection).1 =
      (insertAll now products connection).1 := by
  obtain ⟨⟨version, _ | ⟨rows | entries, lastId, checked⟩⟩, _ | _⟩ := connection
  case some.folded.true =>
    simp only [insertAll, change, if_true, insertAll_folded, firstRefusal_timed]
    cases firstRefusal? checked lastId products with
    | some refusal => rfl
    | none => simp only [Except.map, List.length_map]
  case some.plain.true | none.true => cases products <;> rfl
  all_goals rfl

end Store

theorem Row.createdAt_null_iff (row : Row) :
    row.value .createdAt = .null ↔ ¬Time.InCalendar row.createdAt := by
  rw [← Time.writeInstant_isSome_iff]
  cases written : Time.writeInstant? row.createdAt with
  | some text => simp [NewProduct.value_createdAt written]
  | none =>
      have shown : row.value .createdAt = .null := by
        delta Row.value
        rw [written]
      simp [shown]

theorem Row.exists_createdAt {row : Row} (shown : row.value .createdAt ≠ .null) :
    ∃ text, Time.writeInstant? row.createdAt = some text := by
  have inside : Time.InCalendar row.createdAt := not_not.mp (mt row.createdAt_null_iff.mpr shown)
  exact Option.isSome_iff_exists.mp ((Time.writeInstant_isSome_iff _).mpr inside)

/-- A creation time that is shown so is read back, as that of whatever product it is given for. -/
structure ReadBack (milliseconds : Int) (shown : Json.Value) : Prop where
  text : ∃ text, shown = .text text
  field : Json.decode (Json.Node.optional NewProduct.instant) shown.toText = .ok (some milliseconds)
  product : ∀ before behind : List (String × Json.Value),
    (∀ member ∈ before ++ behind, member.1 ≠ Field.createdAt.label) →
    NewProduct.ofJson
        (Json.Value.record (before ++ (Field.createdAt.label, shown) :: behind)).toText =
      (NewProduct.ofJson (Json.Value.record (before ++ behind)).toText).map (·.timed milliseconds)

/-- A product with this creation time is stored with it, if it would be stored with any. -/
def IsStored (milliseconds : Int) : Prop :=
  ∀ (now : Int) (product : NewProduct) (connection : Store.Connection),
    (Store.insertAll now [product.timed milliseconds] connection).1 =
        (Store.insertAll now [product] connection).1 ∧
      ∀ count after,
        Store.insertAll now [product.timed milliseconds] connection = (.ok count, after) →
        after.database.rows.map (·.createdAt) =
          connection.database.rows.map (·.createdAt) ++ [milliseconds]

theorem isStored (milliseconds : Int) : IsStored milliseconds := by
  intro now product connection
  refine ⟨Store.insertAll_timed now [product] milliseconds connection, ?_⟩
  intro count after inserted
  exact Store.createdAt_insertAll inserted

theorem readBack_written {row : Row} {text : List Char}
    (written : Time.writeInstant? row.createdAt = some text) :
    ReadBack row.createdAt (row.value .createdAt) := by
  have read : Json.Node.optional NewProduct.instant (row.value .createdAt).tree =
      .ok (some row.createdAt) := by
    rw [NewProduct.value_createdAt written]
    exact congrArg (Except.map some) (NewProduct.instant_tree written)
  refine ⟨⟨_, NewProduct.value_createdAt written⟩, ?_, ?_⟩
  · rw [Json.decode_toText, read]
  · intro before behind others
    exact NewProduct.ofJson_createdAt others read

theorem means_createdAt {row : Row} (shown : row.value .createdAt ≠ .null) :
    ∃ text, row.value .createdAt = .text text ∧
      Time.Means text.toList ((row.createdAt : ℚ) / 1000) := by
  obtain ⟨text, written⟩ := Row.exists_createdAt shown
  refine ⟨String.ofList text, NewProduct.value_createdAt written, ?_⟩
  rw [String.toList_ofList]
  exact (Time.written_denotes written).means

/-- What is accepted as a creation time is a text with a meaning. -/
theorem optional_instant_eq_some {node : Json.Node} {milliseconds : Int}
    (read : Json.Node.optional NewProduct.instant node = .ok (some milliseconds)) :
    ∃ parts text, node = .text parts ∧ Json.decodeParts parts = .ok text ∧
      Time.readInstant text.toList = .ok milliseconds := by
  cases node with
  | null => cases read
  | text parts =>
      obtain ⟨_, found, same⟩ := map_eq_ok read
      obtain rfl := Option.some.inj same
      obtain ⟨text, decoded, instant⟩ := bind_eq_ok found
      exact ⟨parts, text, rfl, decoded, mapError_eq_ok instant⟩
  | _ => cases read

/-- The days that instants are counted by are those of the calendar. The creation time of a product
is shown unless it is beyond the calendar, and what is shown is read back and stored. Of a text that
is accepted as a creation time, the milliseconds that have passed at its instant are stored, and
they are what is shown. -/
theorem creationTime_kept :
    (Time.Date.toDays ⟨1970, 1, 1⟩ = 0 ∧ ∀ date : Time.Date, date.exists? = true →
      date.next.exists? = true ∧ date.next.toDays = date.toDays + 1) ∧
    (∀ row : Row, (row.value .createdAt = .null ↔ ¬Time.InCalendar row.createdAt) ∧
      (Time.InCalendar row.createdAt → ReadBack row.createdAt (row.value .createdAt))) ∧
    (∀ milliseconds, IsStored milliseconds) ∧
    ∀ node milliseconds,
      Json.Node.optional NewProduct.instant node = .ok (some milliseconds) →
      ∃ parts text instant, node = .text parts ∧ Json.decodeParts parts = .ok text ∧
        Time.Means text.toList instant ∧
        IsGreatest { count : ℤ | (count : ℚ) / 1000 ≤ instant } milliseconds ∧
        ∀ row : Row, row.createdAt = milliseconds → row.value .createdAt ≠ .null →
          ∃ shown, row.value .createdAt = .text shown ∧
            Time.Means shown.toList ((milliseconds : ℚ) / 1000) := by
  refine ⟨⟨Time.Date.toDays_first, fun date real => ?_⟩, fun row => ?_, isStored, ?_⟩
  · exact ⟨Time.Date.exists_next real, Time.Date.toDays_next real⟩
  · refine ⟨row.createdAt_null_iff, fun inside => ?_⟩
    obtain ⟨text, written⟩ := Row.exists_createdAt fun null => row.createdAt_null_iff.mp null inside
    exact readBack_written written
  · intro node milliseconds read
    obtain ⟨parts, text, spelled, decoded, accepted⟩ := optional_instant_eq_some read
    obtain ⟨instant, means, greatest⟩ := Time.readInstant_means accepted
    refine ⟨parts, text, instant, spelled, decoded, means, greatest, ?_⟩
    rintro row rfl shown
    exact means_createdAt shown

/-- A second that was inserted at the end of 2016, by a clock five hours behind universal time. -/
def insertedSecond : String := "2016-12-31 18:59:60.9996 -05:00"

def productAt (milliseconds : Int) : Row :=
  ⟨1, "lamp", 1.0, 4.5, "ikea", false, milliseconds⟩

theorem creationTime_kept_insertedSecond :
    ReadBack 1483228800999 ((productAt 1483228800999).value .createdAt) ∧
      IsStored 1483228800999 ∧
      ∃ instant, Time.Means insertedSecond.toList instant ∧
        IsGreatest { count : ℤ | (count : ℚ) / 1000 ≤ instant } 1483228800999 := by
  obtain ⟨-, shown, stored, accepted⟩ := creationTime_kept
  have read : Json.Node.optional NewProduct.instant (Json.Value.text insertedSecond).tree =
      .ok (some 1483228800999) := toOption_eq_some (by decide +kernel)
  obtain ⟨parts, text, instant, spelled, decoded, means, greatest, -⟩ := accepted _ _ read
  obtain rfl : text = insertedSecond := by
    cases spelled
    rw [Json.decodeParts_written] at decoded
    exact (Except.ok.inj decoded).symm
  exact ⟨(shown (productAt 1483228800999)).2 (by decide), stored _, instant, means, greatest⟩

end ProductCatalog
