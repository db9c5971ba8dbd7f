import ProductCatalog.Json.Token

/-! JSON text as a tree. Where the text breaks off the tree is cut there, and holds all that came
before; a reader that goes through it in order meets the first fault first. -/

namespace ProductCatalog.Json

inductive Node where
  | null
  | flag (value : Bool)
  | numeral (digits : Numeral)
  | text (parts : List TextPart)
  /-- A list that was not closed has a break behind its items. -/
  | list (items : List Node) (ending : Option Break)
  /-- A record that was not closed has a break behind its members. -/
  | record (members : List (List TextPart × Node)) (ending : Option Break)
  | broken (fault : Break)

/-- A list or record that is still open, its content in reverse. A member waits for its value. -/
inductive Frame where
  | list (items : List Node)
  | record (members : List (List TextPart × Node)) (key : List TextPart)

inductive Place where
  | value
  | firstItem
  | afterItem (items : List Node)
  | firstKey
  | key (members : List (List TextPart × Node))
  | colon (members : List (List TextPart × Node)) (name : List TextPart)
  | afterMember (members : List (List TextPart × Node))
  | done (root : Node)

structure Document where
  root : Node
  trailing : Bool

def Frame.complete (value : Node) : List Frame → List Frame × Place
  | [] => ([], .done value)
  | .list items :: frames => (frames, .afterItem (value :: items))
  | .record members key :: frames => (frames, .afterMember ((key, value) :: members))

/-- Puts a value behind which the text breaks off into all that surrounds it. -/
def Frame.breakOff (value : Node) : List Frame → Node
  | [] => value
  | .list items :: frames => breakOff (.list (value :: items).reverse none) frames
  | .record members key :: frames =>
    breakOff (.record ((key, value) :: members).reverse none) frames

/-- The fault of a token that must not stand where it does, or of the end of the text. -/
def misplaced (within : Unfinished) (flaw : Flaw) : Option Token → Fault
  | none => .truncated within
  | some _ => .malformed flaw

/-- The fault of a token that must not stand where a value belongs. Behind a comma it may be the end
of the list that the comma leads on. -/
def notAValue (within : Unfinished) (afterComma : Bool) : Option Token → Break
  | some (.broken fault) => fault
  | some (.brokenText fault) => fault
  | token =>
    let fault := misplaced within .noValue token
    ⟨if afterComma ∧ token = some .closeList then .malformed .trailingComma else fault, fault⟩

/-- The fault of a token that must not stand where the first key belongs. -/
def notAFirstKey : Option Token → Break
  | some (.brokenText fault) => fault
  | token => .both (misplaced .record .noKey token)

/-- The fault of a token that must not stand where a key belongs behind a comma. -/
def notAKey : Option Token → Break
  | some (.brokenText fault) => fault
  | none => ⟨.truncated .value, .truncated .record⟩
  | some .closeRecord => ⟨.malformed .trailingComma, .malformed .noKey⟩
  | some _ => .both (.malformed .noKey)

def Frame.isList : List Frame → Bool
  | .list _ :: _ => true
  | _ => false

/-- The tree that breaks off at a place, because of the token there or the end of the text. -/
def Place.breakOff (frames : List Frame) (token : Option Token) : Place → Node
  | value => Frame.breakOff (.broken (notAValue .value (Frame.isList frames) token)) frames
  | firstItem => Frame.breakOff (.list [.broken (notAValue .list false token)] none) frames
  | afterItem items =>
    let fault := misplaced .list .unseparatedItem token
    Frame.breakOff (.list items.reverse (some (.both fault))) frames
  | firstKey => Frame.breakOff (.record [] (some (notAFirstKey token))) frames
  | key members => Frame.breakOff (.record members.reverse (some (notAKey token))) frames
  | colon members name =>
    let fault := misplaced .record .noColon token
    Frame.breakOff (.record ((name, .broken (.both fault)) :: members).reverse none) frames
  | afterMember members =>
    let fault := misplaced .record .unseparatedMember token
    Frame.breakOff (.record members.reverse (some (.both fault))) frames
  | done root => root

/-- Goes on from a place where a value belongs, if the token begins one. -/
def beginValue? (frames : List Frame) : Token → Option (List Frame × Place)
  | .null => some (Frame.complete .null frames)
  | .flag value => some (Frame.complete (.flag value) frames)
  | .numeral digits => some (Frame.complete (.numeral digits) frames)
  | .text parts => some (Frame.complete (.text parts) frames)
  | .openList => some (frames, .firstItem)
  | .openRecord => some (frames, .firstKey)
  | _ => none

/-- The place after a token, unless the token cannot stand here. -/
def Place.next? (frames : List Frame) (place : Place) (token : Token) :
    Option (List Frame × Place) :=
  match place, token with
  | value, token => beginValue? frames token
  | firstItem, .closeList => some (Frame.complete (.list [] none) frames)
  | firstItem, token => beginValue? (.list [] :: frames) token
  | afterItem items, .comma => some (.list items :: frames, .value)
  | afterItem items, .closeList => some (Frame.complete (.list items.reverse none) frames)
  | firstKey, .closeRecord => some (Frame.complete (.record [] none) frames)
  | firstKey, .text parts => some (frames, .colon [] parts)
  | key members, .text parts => some (frames, .colon members parts)
  | colon members name, .colon => some (.record members name :: frames, .value)
  | afterMember members, .comma => some (frames, .key members)
  | afterMember members, .closeRecord =>
    some (Frame.complete (.record members.reverse none) frames)
  | _, _ => none

def readFrom (frames : List Frame) (place : Place) : List Token → Document
  | [] => ⟨place.breakOff frames none, false⟩
  | token :: rest =>
    match place with
    | .done root => ⟨root, true⟩
    | place =>
      match place.next? frames token with
      | some (frames, place) => readFrom frames place rest
      | none => ⟨place.breakOff frames (some token), false⟩

def Document.ofChars (text : List Char) : Document :=
  readFrom [] .value (tokens text)

end ProductCatalog.Json
