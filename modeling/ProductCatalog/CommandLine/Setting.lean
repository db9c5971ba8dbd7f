import ProductCatalog.Config.Settings
import ProductCatalog.Decimal.Reading

/-! The settings that can be made on the command line: how they are named, which variables stand in
for them, and what their values must be like. -/

namespace ProductCatalog.CommandLine

open Config (Overrides Variables)

/-- What ends the reading of arguments before there is anything to run. -/
inductive Stop where
  | help
  | version
  | unknownArgument
  | unknownCommand
  | missingValue
  | emptyPath
  | invalidPort
  | repeated
  | needlessValue
  | missingFile
deriving DecidableEq, Repr

/-- To ask for help is no failure. -/
def Stop.exitCode : Stop → Nat
  | help | version => 0
  | _ => 2

inductive Setting where
  | host
  | port
  | config
  | database
deriving DecidableEq, Repr

namespace Setting

/-- The settings, in the order in which variables are looked at. -/
def all : List Setting := [host, port, config, database]

def name : Setting → String
  | host => "host"
  | port => "port"
  | config => "config"
  | database => "database"

def letter : Setting → Char
  | host => 'H'
  | port => 'p'
  | config => 'c'
  | database => 'd'

/-- The variable whose value counts if the setting is not made. -/
def variableName : Setting → String
  | host => "CATALOG_HOST"
  | port => "CATALOG_PORT"
  | config => "CATALOG_CONFIG"
  | database => "CATALOG_DATABASE"

def isGiven (overrides : Overrides) : Setting → Bool
  | host => overrides.host.isSome
  | port => overrides.port.isSome
  | config => overrides.config.isSome
  | database => overrides.database.isSome

end Setting

/-- A number below `2 ^ 16` in decimal digits, with a sign if wanted. -/
def readPort? (text : List Char) : Option UInt16 :=
  let (negative, digits) := Decimal.readSign text
  let value := Decimal.digitsValue digits
  if digits ≠ [] ∧ digits.all Decimal.isDigit ∧ value < UInt16.size ∧ (!negative ∨ value = 0) then
    some (UInt16.ofNat value)
  else none

def checkPath (path : String) : Except Stop String :=
  if path = "" then .error .emptyPath else .ok path

namespace Setting

/-- Makes a setting. Any text is a host. -/
def make (overrides : Overrides) (value : String) : Setting → Except Stop Overrides
  | host => .ok { overrides with host := some value }
  | port =>
    match readPort? value.toList with
    | some number => .ok { overrides with port := some number }
    | none => .error .invalidPort
  | config => (checkPath value).map fun path => { overrides with config := some path }
  | database => (checkPath value).map fun path => { overrides with database := some path }

def makeOnce (overrides : Overrides) (value : String) (setting : Setting) : Except Stop Overrides :=
  if setting.isGiven overrides then .error .repeated else setting.make overrides value

/-- Makes a setting as its variable says, if the variable is there. -/
def makeFromVariable (bindings : Variables) (overrides : Overrides) (setting : Setting) :
    Except Stop Overrides :=
  match bindings.lookup setting.variableName with
  | some value => setting.make overrides value
  | none => .ok overrides

end Setting

/-- The settings that variables make in place of those that are not given. -/
def overridesFrom (bindings : Variables) (given : Overrides) : Except Stop Overrides :=
  (Setting.all.filter fun setting => !setting.isGiven given).foldlM
    (Setting.makeFromVariable bindings) {}

end ProductCatalog.CommandLine
