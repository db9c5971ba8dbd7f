/-! Why a JSON text was refused. -/

namespace ProductCatalog.Json

inductive Found where
  | null
  | flag (value : Bool)
  | integer (value : Int)
  | number (digits : String)
  | text (content : String)
  | list
  | record
deriving DecidableEq, Repr

def Found.describe : Found → String
  | null => "null"
  | flag value => s!"boolean `{value}`"
  | integer value => s!"integer `{value}`"
  | number digits => s!"floating point `{digits}`"
  | text content => "string " ++ content
  | list => "sequence"
  | record => "map"

/-- What a text that ended too early was in the middle of. -/
inductive Unfinished where
  | value
  | list
  | record
  | text
deriving DecidableEq, Repr

def Unfinished.describe : Unfinished → String
  | value => "a value"
  | list => "a list"
  | record => "an object"
  | text => "a string"

/-- Why a text is not JSON, or what limit of the reader it exceeds. -/
inductive Flaw where
  | noValue
  | unknownWord
  | noColon
  /-- An item is followed by neither a comma nor the end of its list. -/
  | unseparatedItem
  /-- A member is followed by neither a comma nor the end of its record. -/
  | unseparatedMember
  | trailingComma
  | noKey
  | badNumber
  | numberOutOfRange
  | unknownEscape
  | badCode
  /-- A 16-bit unit has a partner that it cannot have. -/
  | badPartner
  | noPartner
  | controlCharacter
  | tooDeep
  | trailing
deriving DecidableEq, Repr

def Flaw.describe : Flaw → String
  | noValue => "expected value"
  | unknownWord => "expected ident"
  | noColon => "expected `:`"
  | unseparatedItem => "expected `,` or `]`"
  | unseparatedMember => "expected `,` or `\x7d`"
  | trailingComma => "trailing comma"
  | noKey => "key must be a string"
  | badNumber => "invalid number"
  | numberOutOfRange => "number out of range"
  | unknownEscape => "invalid escape"
  | badCode => "invalid escape"
  | badPartner => "lone leading surrogate in hex escape"
  | noPartner => "unexpected end of hex escape"
  | controlCharacter =>
    "control character (\\u0000-\\u001F) found while parsing a string"
  | tooDeep => "recursion limit exceeded"
  | trailing => "trailing characters"

inductive Fault where
  | truncated (within : Unfinished)
  | malformed (flaw : Flaw)
  | missingField (name : String)
  | duplicateField (name : String)
  | invalidType (found : Found) (expected : String)
  | invalidValue (found : Found) (expected : String)
  | invalidLength (length : Nat) (expected : String)
  /-- The value has the right type, and its text denotes nothing. -/
  | meaningless (reason : String)
deriving DecidableEq, Repr

def Fault.message : Fault → String
  | truncated within => "EOF while parsing " ++ within.describe
  | malformed flaw => flaw.describe
  | missingField name => s!"missing field `{name}`"
  | duplicateField name => s!"duplicate field `{name}`"
  | invalidType found expected => s!"invalid type: {found.describe}, expected {expected}"
  | invalidValue found expected => s!"invalid value: {found.describe}, expected {expected}"
  | invalidLength length expected => s!"invalid length {length}, expected {expected}"
  | meaningless reason => reason

end ProductCatalog.Json
