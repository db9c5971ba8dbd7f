import ProductCatalog.Json.Decode
import ProductCatalog.Proofs.Json.WrittenNumber
import ProductCatalog.Proofs.Json.WrittenText

/-! Values that were written as JSON text: reading the text gives the tree of the value. -/

namespace ProductCatalog.Json

namespace Value

mutual

/-- The tree of a value. -/
def tree : Value → Node
  | null => .null
  | flag value => .flag value
  | integer value => .numeral ⟨value < 0, Nat.toDigits 10 value.natAbs, [], none⟩
  | number value => if Decimal.isFinite value then .numeral (Decimal.numeral value) else .null
  | text value => .text (value.toList.map writtenPart)
  | list items => .list (trees items) none
  | record members => .record (memberTrees members) none

def trees : List Value → List Node
  | [] => []
  | item :: rest => item.tree :: trees rest

def memberTrees : List (String × Value) → List (List TextPart × Node)
  | [] => []
  | (key, value) :: rest => (key.toList.map writtenPart, value.tree) :: memberTrees rest

end

end Value

/-- Reading goes on behind a value that is complete. -/
def resume (node : Node) (frames : List Frame) (following : List Token) : Document :=
  readFrom (Frame.complete node frames).1 (Frame.complete node frames).2 following

/-- Where a value belongs, the text is read as this tree, and reading goes on behind it. -/
def ReadsAs (text : List Char) (node : Node) : Prop :=
  ∀ rest, IsStop rest → ∃ token more, tokens (text ++ rest) = token :: more ∧
    ∀ frames, ∃ inner place, beginValue? frames token = some (inner, place) ∧
      readFrom inner place more = resume node frames (tokens rest)

theorem ReadsAs.atValue {text : List Char} {node : Node} (reads : ReadsAs text node)
    {rest : List Char} (stop : IsStop rest) (frames : List Frame) :
    readFrom frames .value (tokens (text ++ rest)) = resume node frames (tokens rest) := by
  obtain ⟨token, more, written, begins⟩ := reads rest stop
  obtain ⟨inner, place, begun, goes_on⟩ := begins frames
  rw [written, ← goes_on]
  simp only [readFrom, Place.next?, begun]

theorem ReadsAs.atFirstItem {text : List Char} {node : Node} (reads : ReadsAs text node)
    {rest : List Char} (stop : IsStop rest) (frames : List Frame) :
    readFrom frames .firstItem (tokens (text ++ rest)) =
      readFrom frames (.afterItem [node]) (tokens rest) := by
  obtain ⟨token, more, written, begins⟩ := reads rest stop
  obtain ⟨inner, place, begun, goes_on⟩ := begins (.list [] :: frames)
  have next : Place.next? frames .firstItem token = some (inner, place) := by
    cases token with
    | closeList => cases begun
    | _ => exact begun
  rw [written]
  simp only [readFrom, next]
  exact goes_on

theorem readsAs_token {text : List Char} {node : Node} {token : Token}
    (written : ∀ rest, IsStop rest → tokens (text ++ rest) = token :: tokens rest)
    (begins : ∀ frames, beginValue? frames token = some (Frame.complete node frames)) :
    ReadsAs text node := fun rest stop =>
  ⟨token, tokens rest, written rest stop, fun frames => ⟨_, _, begins frames, rfl⟩⟩

theorem tokens_cons {c : Char} {text rest : List Char} {token : Token}
    (solid : isBlank c = false) (read : readToken c text = (token, rest)) :
    tokens (c :: text) = token :: tokens rest := by
  rw [tokens, if_neg (by simp [solid]), read]

theorem tokens_closeList (rest : List Char) : tokens (']' :: rest) = .closeList :: tokens rest :=
  tokens_cons (by decide) rfl

theorem tokens_closeRecord (rest : List Char) :
    tokens ('\x7d' :: rest) = .closeRecord :: tokens rest :=
  tokens_cons (by decide) rfl

theorem readsAs_null : ReadsAs ['n', 'u', 'l', 'l'] .null :=
  readsAs_token (fun _ _ => tokens_cons (by decide) rfl) fun _ => rfl

theorem readsAs_flag (value : Bool) : ReadsAs (Value.flag value).write (.flag value) := by
  cases value with
  | true => exact readsAs_token (fun _ _ => tokens_cons (by decide) rfl) fun _ => rfl
  | false => exact readsAs_token (fun _ _ => tokens_cons (by decide) rfl) fun _ => rfl

theorem readsAs_numeral {numeral : Numeral} (proper : numeral.Proper) :
    ReadsAs numeral.characters (.numeral numeral) :=
  readsAs_token (fun _ stop => numeral.tokens_characters proper stop) fun _ => rfl

theorem tokens_writeText (text : String) (rest : List Char) :
    tokens (writeText text ++ rest) = .text (text.toList.map writtenPart) :: tokens rest := by
  simp only [writeText, List.cons_append, List.append_assoc, List.nil_append]
  exact tokens_cons (by decide) (readTextToken_written text.toList rest)

theorem readsAs_text (text : String) :
    ReadsAs (writeText text) (.text (text.toList.map writtenPart)) :=
  readsAs_token (fun rest _ => tokens_writeText text rest) fun _ => rfl

theorem readsAs_number (x : Float) : ReadsAs (writeNumber x) (Value.number x).tree := by
  rw [writeNumber, Value.tree]
  split
  · rw [← Decimal.characters_numeral]
    exact readsAs_numeral (Decimal.numeral_proper x)
  · exact readsAs_null

theorem toDigits_proper (negative : Bool) (number : Nat) :
    (Numeral.mk negative (Nat.toDigits 10 number) [] none).Proper := by
  refine ⟨Nat.toDigits_ne_nil, fun c => Query.isDigit_of_mem_toDigits, ?_, by simp⟩
  intro zero
  cases number with
  | zero => rfl
  | succ number => exact absurd zero (Decimal.head_toDigits (Nat.succ_pos number))

theorem readsAs_integer (value : Int) :
    ReadsAs (Value.integer value).write (Value.integer value).tree := by
  have written : (Value.integer value).write =
      (Numeral.mk (value < 0) (Nat.toDigits 10 value.natAbs) [] none).characters := by
    simp only [Value.write, Numeral.characters, Numeral.fractionCharacters,
      Numeral.powerCharacters, if_true, List.append_nil]
    cases value with
    | ofNat number =>
        have plain : ¬Int.ofNat number < 0 := Int.not_lt.mpr (Int.natCast_nonneg number)
        simp only [plain, decide_false, Bool.false_eq_true, if_false, List.nil_append]
        exact Nat.toList_repr
    | negSucc number =>
        have below : Int.negSucc number < 0 := Int.negSucc_lt_zero number
        have digits : toString (Int.negSucc number) = "-" ++ Nat.repr (number + 1) := rfl
        simp only [below, decide_true, if_true, digits, String.toList_append, Nat.toList_repr]
        rfl
  rw [written]
  exact readsAs_numeral (toDigits_proper _ _)

theorem isStop_cons {c : Char} (other : Decimal.isDigit c = false ∧ c ≠ '.' ∧ c ≠ 'e' ∧ c ≠ 'E')
    (rest : List Char) : IsStop (c :: rest) := by
  rintro c ⟨⟩
  exact other

/-- What is written of a list behind one of its items. -/
def moreItems : List Value → List Char
  | [] => []
  | items => ',' :: Value.writeItems items

theorem writeItems_cons (item : Value) (rest : List Value) :
    Value.writeItems (item :: rest) = item.write ++ moreItems rest := by
  cases rest with
  | nil => simp [Value.writeItems, moreItems]
  | cons next rest => simp [Value.writeItems, moreItems]

theorem isStop_moreItems (items : List Value) (rest : List Char) :
    IsStop (moreItems items ++ ']' :: rest) := by
  cases items with
  | nil => exact isStop_cons (by decide) rest
  | cons item items => exact isStop_cons (by decide) _

theorem readFrom_moreItems {items : List Value}
    (each : ∀ item ∈ items, ReadsAs item.write item.tree) (done : List Node)
    (frames : List Frame) (rest : List Char) :
    readFrom frames (.afterItem done) (tokens (moreItems items ++ ']' :: rest)) =
      resume (.list (done.reverse ++ Value.trees items) none) frames (tokens rest) := by
  induction items generalizing done with
  | nil =>
      rw [moreItems, List.nil_append, tokens_closeList]
      simp only [readFrom, Place.next?, Value.trees, List.append_nil, resume]
  | cons item items ih =>
      have first := each item List.mem_cons_self
      have others := ih (fun item member => each item (List.mem_cons_of_mem _ member))
        (item.tree :: done)
      have comma : tokens (moreItems (item :: items) ++ ']' :: rest) =
          .comma :: tokens (item.write ++ (moreItems items ++ ']' :: rest)) := by
        rw [← List.append_assoc, ← writeItems_cons]
        exact tokens_cons (by decide) rfl
      rw [comma]
      simp only [readFrom, Place.next?]
      rw [first.atValue (isStop_moreItems items rest)]
      refine others.trans ?_
      rw [List.reverse_cons, List.append_assoc, Value.trees, List.singleton_append]

theorem readsAs_list {items : List Value}
    (each : ∀ item ∈ items, ReadsAs item.write item.tree) :
    ReadsAs (Value.list items).write (Value.list items).tree := by
  intro rest stop
  refine ⟨.openList, tokens (Value.writeItems items ++ ']' :: rest), ?_, ?_⟩
  · simp only [Value.write, List.cons_append, List.append_assoc, List.nil_append]
    exact tokens_cons (by decide) rfl
  · intro frames
    refine ⟨frames, .firstItem, rfl, ?_⟩
    cases items with
    | nil =>
        rw [Value.writeItems, List.nil_append, tokens_closeList]
        simp only [readFrom, Place.next?, Value.tree, Value.trees, resume]
    | cons item items =>
        have first := each item List.mem_cons_self
        rw [writeItems_cons, List.append_assoc, first.atFirstItem (isStop_moreItems items rest),
          readFrom_moreItems fun item member => each item (List.mem_cons_of_mem _ member)]
        rfl

/-- What is written of a record behind one of its members. -/
def moreMembers : List (String × Value) → List Char
  | [] => []
  | members => ',' :: Value.writeMembers members

theorem writeMembers_cons (key : String) (value : Value) (rest : List (String × Value)) :
    Value.writeMembers ((key, value) :: rest) =
      writeText key ++ ':' :: (value.write ++ moreMembers rest) := by
  cases rest with
  | nil => simp [Value.writeMembers, moreMembers]
  | cons next rest => simp [Value.writeMembers, moreMembers]

theorem isStop_moreMembers (members : List (String × Value)) (rest : List Char) :
    IsStop (moreMembers members ++ '\x7d' :: rest) := by
  cases members with
  | nil => exact isStop_cons (by decide) rest
  | cons member members => exact isStop_cons (by decide) _

/-- A member is read wherever its key may stand. -/
theorem readFrom_member {key : String} {value : Value} (reads : ReadsAs value.write value.tree)
    {place : Place} {done : List (List TextPart × Node)} {frames : List Frame}
    (next : ∀ parts, place.next? frames (.text parts) = some (frames, .colon done parts))
    (members : List (String × Value)) (rest : List Char) :
    readFrom frames place
        (tokens (writeText key ++ ':' :: (value.write ++ moreMembers members ++ '\x7d' :: rest))) =
      readFrom frames (.afterMember ((key.toList.map writtenPart, value.tree) :: done))
        (tokens (moreMembers members ++ '\x7d' :: rest)) := by
  have colon (text : List Char) : tokens (':' :: text) = .colon :: tokens text :=
    tokens_cons (by decide) rfl
  rw [tokens_writeText, colon, List.append_assoc]
  cases place with
  | done root => cases next []
  | _ =>
    simp only [readFrom, next]
    simp only [Place.next?]
    rw [reads.atValue (isStop_moreMembers members rest)]
    rfl

theorem readFrom_moreMembers {members : List (String × Value)}
    (each : ∀ member ∈ members, ReadsAs member.2.write member.2.tree)
    (done : List (List TextPart × Node)) (frames : List Frame) (rest : List Char) :
    readFrom frames (.afterMember done) (tokens (moreMembers members ++ '\x7d' :: rest)) =
      resume (.record (done.reverse ++ Value.memberTrees members) none) frames (tokens rest) := by
  induction members generalizing done with
  | nil =>
      rw [moreMembers, List.nil_append, tokens_closeRecord]
      simp only [readFrom, Place.next?, Value.memberTrees, List.append_nil, resume]
  | cons member members ih =>
      obtain ⟨key, value⟩ := member
      have first := each (key, value) List.mem_cons_self
      have others := ih (fun member belongs => each member (List.mem_cons_of_mem _ belongs))
        ((key.toList.map writtenPart, value.tree) :: done)
      have comma : tokens (moreMembers ((key, value) :: members) ++ '\x7d' :: rest) =
          .comma :: tokens (writeText key ++
            ':' :: (value.write ++ moreMembers members ++ '\x7d' :: rest)) := by
        rw [moreMembers, writeMembers_cons, List.cons_append, List.append_assoc, List.cons_append]
        · exact tokens_cons (by decide) rfl
        · simp
      rw [comma]
      simp only [readFrom, Place.next?]
      rw [readFrom_member first (fun _ => rfl)]
      refine others.trans ?_
      rw [List.reverse_cons, List.append_assoc, Value.memberTrees, List.singleton_append]

theorem readsAs_record {members : List (String × Value)}
    (each : ∀ member ∈ members, ReadsAs member.2.write member.2.tree) :
    ReadsAs (Value.record members).write (Value.record members).tree := by
  intro rest stop
  refine ⟨.openRecord, tokens (Value.writeMembers members ++ '\x7d' :: rest), ?_, ?_⟩
  · simp only [Value.write, List.cons_append, List.append_assoc, List.nil_append]
    exact tokens_cons (by decide) rfl
  · intro frames
    refine ⟨frames, .firstKey, rfl, ?_⟩
    cases members with
    | nil =>
        rw [Value.writeMembers, List.nil_append, tokens_closeRecord]
        simp only [readFrom, Place.next?, Value.tree, Value.memberTrees, resume]
    | cons member members =>
        obtain ⟨key, value⟩ := member
        rw [writeMembers_cons, List.append_assoc, List.cons_append,
          readFrom_member (each (key, value) List.mem_cons_self) (fun _ => rfl),
          readFrom_moreMembers fun member belongs => each member (List.mem_cons_of_mem _ belongs)]
        rfl

mutual

theorem readsAs_write : (value : Value) → ReadsAs value.write value.tree
  | .null => readsAs_null
  | .flag value => readsAs_flag value
  | .integer value => readsAs_integer value
  | .number value => readsAs_number value
  | .text value => readsAs_text value
  | .list items => readsAs_list (readsAs_items items)
  | .record members => readsAs_record (readsAs_members members)

theorem readsAs_items : (items : List Value) → ∀ item ∈ items, ReadsAs item.write item.tree
  | [] => by simp
  | item :: rest => by
    intro other member
    rcases List.mem_cons.mp member with same | member
    · exact same ▸ readsAs_write item
    · exact readsAs_items rest other member

theorem readsAs_members : (members : List (String × Value)) →
    ∀ member ∈ members, ReadsAs member.2.write member.2.tree
  | [] => by simp
  | (key, value) :: rest => by
    intro other member
    rcases List.mem_cons.mp member with same | member
    · exact same ▸ readsAs_write value
    · exact readsAs_members rest other member

end

/-- The text of a value is read as the tree of the value, with nothing behind it. -/
theorem ofChars_write (value : Value) : Document.ofChars value.write = ⟨value.tree, false⟩ := by
  have nothing : IsStop [] := by
    rintro c ⟨⟩
  have read := (readsAs_write value).atValue nothing []
  rw [List.append_nil] at read
  rw [Document.ofChars, read, tokens]
  rfl

theorem decode_toText {α : Type} (read : Node → Except Fault α) (value : Value) :
    decode read value.toText = read value.tree := by
  rw [decode, Value.toText, String.toList_ofList, ofChars_write]
  cases read value.tree <;> rfl

end ProductCatalog.Json
