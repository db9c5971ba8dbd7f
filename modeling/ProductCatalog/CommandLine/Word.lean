/-! The words of a command line, each as it looks by itself. -/

namespace ProductCatalog.CommandLine

inductive Word where
  | separator
  /-- A name behind two dashes, with a value behind an equals sign if there is one. -/
  | long (name : String) (value : Option String)
  /-- A short name behind a dash, and what is attached to it. -/
  | short (letter : Char) (attached : List Char)
  | plain
deriving DecidableEq, Repr

/-- The value of a long name, from its equals sign on. -/
def valueBehindEquals : List Char → Option String
  | '=' :: value => some (String.ofList value)
  | _ => none

def Word.ofChars : List Char → Word
  | ['-', '-'] => separator
  | '-' :: '-' :: rest =>
    long (String.ofList (rest.takeWhile (· ≠ '='))) (valueBehindEquals (rest.dropWhile (· ≠ '=')))
  | '-' :: letter :: attached => short letter attached
  | _ => plain

/-- The value that is attached to a short name. An equals sign in front does not belong to it, but
shows that there is a value even where nothing follows. -/
def attachedValue? : List Char → Option String
  | [] => none
  | '=' :: value => some (String.ofList value)
  | value => some (String.ofList value)

end ProductCatalog.CommandLine
