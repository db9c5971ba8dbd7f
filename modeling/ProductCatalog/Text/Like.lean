/-! Patterns in which a percent sign stands for any run of characters, an underline for any one
character, and a backslash takes the next character literally. ASCII letters match without regard
to case, and what is read as the replacement character matches as that does. All others match
exactly. -/

namespace ProductCatalog.Text.Like

def replaceChar (c : Char) (substitute text : List Char) : List Char :=
  text.flatMap fun d => if d = c then substitute else [d]

/-- A pattern that only `text` itself matches, up to the case of ASCII letters. -/
def escape (text : List Char) : List Char :=
  -- backslashes come first: those that the other two steps write are not to be doubled
  replaceChar '_' ['\\', '_'] (replaceChar '%' ['\\', '%'] (replaceChar '\\' ['\\', '\\'] text))

def containing (needle : List Char) : List Char :=
  '%' :: escape needle ++ ['%']

/-- What a character of a pattern or a text is read as. The last two code points of the basic plane
are no characters, and stand for the replacement character. -/
def asRead (c : Char) : Char :=
  if c = '\uFFFE' ∨ c = '\uFFFF' then '\uFFFD' else c

/-- What is compared of a character. -/
def letter (c : Char) : Char :=
  (asRead c).toLower

def sameLetter (left right : Char) : Bool :=
  letter left == letter right

/-- Some end of the text, the whole and the empty one among them, passes the test. -/
def anyEnd (test : List Char → Bool) : List Char → Bool
  | [] => test []
  | c :: rest => test (c :: rest) || anyEnd test rest

/-- A pattern that ends in its escape character matches nothing. -/
def accepts : List Char → List Char → Bool
  | [], text => text.isEmpty
  | '\\' :: [], _ => false
  | '\\' :: literal :: pattern, text =>
    match text with
    | [] => false
    | c :: rest => sameLetter literal c && accepts pattern rest
  | '%' :: pattern, text => anyEnd (accepts pattern) text
  | '_' :: pattern, text =>
    match text with
    | [] => false
    | _ :: rest => accepts pattern rest
  | literal :: pattern, text =>
    match text with
    | [] => false
    | c :: rest => sameLetter literal c && accepts pattern rest

/-- The part before the first U+0000, where a pattern and a text both end. -/
def visible (text : List Char) : List Char :=
  text.takeWhile (· ≠ '\u0000')

def isMatch (pattern text : List Char) : Bool :=
  accepts (visible pattern) (visible text)

end ProductCatalog.Text.Like
