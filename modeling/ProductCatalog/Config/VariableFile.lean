import ProductCatalog.Config.Environment

/-! Files that define variables, one `NAME=value` a line. A value may be quoted, and then it may go
over several lines; within double quotes and without quotes, a dollar sign names a variable whose
value is put in its place. Reading stops at the first line that makes no sense. -/

namespace ProductCatalog.Config.VariableFile

/-! Lines -/

/-- Where the scan of a line stands. Only a line that ends in the state `plain` is complete. -/
inductive LineState where
  | plain
  | blank
  | escaped
  | single
  | singleEscaped
  | double
  | doubleEscaped
deriving DecidableEq, Repr

def LineState.outside (c : Char) : LineState :=
  if c = '\\' then escaped
  else if c = '"' then double
  else if c = '\'' then single
  else plain

def LineState.next (state : LineState) (c : Char) : LineState :=
  match state with
  | plain => if Text.isBlank c ∧ c ≠ '\n' ∧ c ≠ '\r' then blank else outside c
  | blank => outside c
  | escaped => plain
  | single => if c = '\\' then singleEscaped else if c = '\'' then plain else single
  | singleEscaped => single
  | double => if c = '\\' then doubleEscaped else if c = '"' then plain else double
  | doubleEscaped => double

/-- Scans a line. A comment behind a blank ends it: then the part before the comment, otherwise the
state at the end. -/
def scanLine (state : LineState) : List Char → Except (List Char) LineState
  | [] => .ok state
  | c :: rest =>
    if state = .blank ∧ c = '#' then .error []
    else (scanLine (state.next c) rest).mapError (c :: ·)

def chomp (line : List Char) : List Char :=
  match line.reverse with
  | '\n' :: '\r' :: rest => rest.reverse
  | '\n' :: rest => rest.reverse
  | _ => line

/-- Joins the lines of a file that belong together. The list ends with `none` if the file does so
before a line is complete, or is not text. -/
def joinLines (begun : List Char) (state : LineState) :
    List (Option (List Char)) → List (Option (List Char))
  | [] => if state = .plain then [] else [none]
  | none :: _ => [none]
  | some line :: rest =>
    let whole := begun ++ line
    if (Text.trimStart whole).head? = some '#' then some [] :: joinLines [] .plain rest
    else
      match scanLine state line with
      | .error kept => some (begun ++ kept) :: joinLines [] .plain rest
      | .ok .plain => some (chomp whole) :: joinLines [] .plain rest
      | .ok state => joinLines whole state rest

/-- The lines of a file, each with the character that ends it. -/
def splitLines : List UInt8 → List (List UInt8)
  | [] => []
  | byte :: rest =>
    if byte = 0x0A then [byte] :: splitLines rest
    else
      match splitLines rest with
      | [] => [[byte]]
      | line :: lines => (byte :: line) :: lines

def dropMark : List UInt8 → List UInt8
  | 0xEF :: 0xBB :: 0xBF :: rest => rest
  | bytes => bytes

def lines (bytes : List UInt8) : List (Option (List Char)) :=
  joinLines [] .plain ((splitLines (dropMark bytes)).map Text.Utf8.decode?)

/-! Values -/

/-- What a character of a value belongs to. The flag says whether double quotes are open. -/
inductive ValueState where
  | text (quoted : Bool)
  | single
  | escaped (quoted : Bool)
  | name (quoted : Bool) (name : List Char)
  | bracedName (quoted : Bool) (name : List Char)
  | ending
deriving DecidableEq, Repr

def valueOf (bindings : Variables) (name : List Char) : List Char :=
  ((bindings.lookup (String.ofList name)).getD "").toList

def unescape? (c : Char) : Option Char :=
  if c = 'n' then some '\n'
  else if c = '\\' ∨ c = '\'' ∨ c = '"' ∨ c = '$' ∨ c = ' ' then some c
  else none

def readValue (bindings : Variables) (state : ValueState) : List Char → Option (List Char)
  | [] =>
    match state with
    | .text false | .escaped false | .ending => some []
    | .name false name => some (valueOf bindings name)
    | _ => none
  | c :: rest =>
    let go := fun state => readValue bindings state rest
    match state with
    | .ending => if c = ' ' ∨ c = '\t' then go .ending else if c = '#' then some [] else none
    | .escaped quoted => do
      let c ← unescape? c
      let value ← go (.text quoted)
      return c :: value
    | .single => if c = '\'' then go (.text false) else (go .single).map (c :: ·)
    | .name quoted name =>
      if c.isAlphanum then go (.name quoted (name ++ [c]))
      else if c = '\x7b' ∧ name = [] then go (.bracedName quoted [])
      else if c = '$' then (go (.name quoted [])).map (valueOf bindings name ++ ·)
      else (go (.text quoted)).map (valueOf bindings name ++ c :: ·)
    | .bracedName quoted name =>
      if c = '\x7d' then (go (.text quoted)).map (valueOf bindings name ++ ·)
      else go (.bracedName quoted (name ++ [c]))
    | .text quoted =>
      if c = '$' then go (.name quoted [])
      else if c = '\\' then go (.escaped quoted)
      else if c = '"' then go (.text !quoted)
      else if quoted then (go (.text true)).map (c :: ·)
      else if c = '\'' then go .single
      else if c = ' ' ∨ c = '\t' then go .ending
      else (go (.text false)).map (c :: ·)

/-! Definitions -/

def isNameStart (c : Char) : Bool :=
  c.isAlpha || c == '_'

def isNameChar (c : Char) : Bool :=
  c.isAlphanum || c == '_' || c == '.'

def readName? (line : List Char) : Option (List Char × List Char) :=
  match line with
  | c :: _ =>
    if isNameStart c then
      some (line.takeWhile isNameChar, Text.trimStart (line.dropWhile isNameChar))
    else none
  | [] => none

def readAssignment? (bindings : Variables) (line : List Char) : Option (List Char) :=
  match line with
  | '=' :: rest =>
    let value := Text.trimStart rest
    if value = [] ∨ value.head? = some '#' then some [] else readValue bindings (.text false) value
  | _ => none

/-- A definition, which may have the word `export` in front. Nothing for a line without one. -/
def readDefinition? (bindings : Variables) (line : List Char) : Option (Option (String × String)) :=
  let line := Text.trim line
  if line = [] ∨ line.head? = some '#' then some none
  else do
    let (name, rest) ← readName? line
    let (name, rest) ←
      if name = "export".toList ∧ rest.head? ≠ some '=' then readName? rest else some (name, rest)
    let value ← readAssignment? bindings rest
    return some (String.ofList name, String.ofList value)

def defineLines (bindings : Variables) : List (Option (List Char)) → Variables
  | [] => bindings
  | none :: _ => bindings
  | some line :: rest =>
    match readDefinition? bindings line with
    | none => bindings
    | some none => defineLines bindings rest
    | some (some (name, value)) => defineLines (bindings.define name value) rest

def fileName : Files.Path := ⟨".env"⟩

/-- The content of the nearest such file: in a directory, given by its names last name first, or in
one that it lies in. The search ends where it cannot be told what is there. -/
def nearest? (files : Files.Tree) : List String → Option (List UInt8)
  | [] => contentAt [] none
  | name :: rest => contentAt (name :: rest) (nearest? files rest)
where
  contentAt (names : List String) (otherwise : Option (List UInt8)) : Option (List UInt8) :=
    match files.find .root ((Files.Path.ofNames names.reverse).join fileName) with
    | .ok (.file bytes) => some bytes
    | .ok _ | .error .notFound => otherwise
    | .error _ => none

end VariableFile

def Environment.withVariableFile (environment : Environment) : Environment :=
  match VariableFile.nearest? environment.files environment.surroundings.current.names.reverse with
  | none => environment
  | some bytes =>
    { environment with
      bindings := VariableFile.defineLines environment.bindings (VariableFile.lines bytes) }

end ProductCatalog.Config
