/-! The target of a request, which says what is asked for: a path with or without a query, alone or
behind a scheme and an authority; an authority alone; or an asterisk. -/

namespace ProductCatalog.Http

structure Target where
  path : List Char
  query : Option (List Char) := none
deriving DecidableEq, Repr

namespace Target

/-- The longest target, in bytes. -/
def maxSize : Nat := 65534

def isBetween (first last c : Char) : Bool :=
  first ≤ c && c ≤ last

/-- The characters of a path. Quotes and braces are let through, a backtick is not. -/
def isPathChar (c : Char) : Bool :=
  c == '!' || c == '"' || isBetween '$' ';' c || c == '=' || isBetween '@' '_' c ||
    isBetween 'a' '~' c || '\x7f' ≤ c

def isQueryChar (c : Char) : Bool :=
  c == '!' || isBetween '$' ';' c || c == '=' || '?' ≤ c

/-- The path ends where a query or a fragment begins, and the query where a fragment begins. -/
def isPathEnd (c : Char) : Bool :=
  c == '?' || c == '#'

/-- A path, with a query where there is one. A fragment is left out. -/
def ofPath? (text : List Char) : Option Target :=
  let path := text.takeWhile fun c => !isPathEnd c
  let query := match text.dropWhile fun c => !isPathEnd c with
    | '?' :: rest => some (rest.takeWhile (· ≠ '#'))
    | _ => none
  if path.all isPathChar ∧ (query.getD []).all isQueryChar then
    some ⟨if path = [] then ['/'] else path, query⟩
  else none

def isAuthorityChar (c : Char) : Bool :=
  c.isAlphanum || "!$&'()*+,-.;=_~".toList.contains c

/-- What was met so far in an authority. Colons and percent signs before an at sign, or between
brackets, do not count. -/
structure AuthorityScan where
  colons : Nat := 0
  percent : Bool := false
  opened : Bool := false
  closed : Bool := false

/-- The most colons that may be met before some are forgotten. -/
def maxColons : Nat := 8

def AuthorityScan.step (scan : AuthorityScan) (c : Char) : Option AuthorityScan :=
  if c = ':' then
    if maxColons ≤ scan.colons then none else some { scan with colons := scan.colons + 1 }
  else if c = '[' then
    if scan.percent || scan.opened then none else some { scan with opened := true }
  else if c = ']' then
    if !scan.opened || scan.closed then none
    else some { scan with closed := true, colons := 0, percent := false }
  else if c = '@' then some { scan with colons := 0, percent := false }
  else if c = '%' then some { scan with percent := true }
  else if isAuthorityChar c then some scan
  else none

def AuthorityScan.isComplete (scan : AuthorityScan) : Bool :=
  scan.opened == scan.closed && scan.colons ≤ 1 && !scan.percent

def isAuthority (text : List Char) : Bool :=
  match text.foldlM AuthorityScan.step ({} : AuthorityScan) with
  | some scan => scan.isComplete && text.getLast? != some '@'
  | none => false

def isAuthorityEnd (c : Char) : Bool :=
  c == '/' || isPathEnd c

def isSchemeChar (c : Char) : Bool :=
  c.isAlphanum || c == '+' || c == '-' || c == '.'

def maxScheme : Nat := 64

def afterScheme? (text : List Char) : Option (List Char) :=
  match text.dropWhile isSchemeChar with
  | ':' :: '/' :: '/' :: rest => some rest
  | _ => none

def ofAbsolute? (text : List Char) : Option Target :=
  let authority := text.takeWhile fun c => !isAuthorityEnd c
  if authority ≠ [] ∧ isAuthority authority then
    ofPath? (text.dropWhile fun c => !isAuthorityEnd c)
  else none

def ofText? (text : String) : Option Target :=
  if maxSize < text.utf8ByteSize then none
  else
    let characters := text.toList
    if characters = ['*'] then some ⟨['*'], none⟩
    else if characters.head? = some '/' then ofPath? characters
    else
      match afterScheme? characters with
      | some rest =>
        if maxScheme < (characters.takeWhile isSchemeChar).length then none else ofAbsolute? rest
      | none =>
        if characters ≠ [] ∧ isAuthority characters then some ⟨[], none⟩ else none

end Target

end ProductCatalog.Http
