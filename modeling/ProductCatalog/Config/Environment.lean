import ProductCatalog.Files.Tree

/-! What the program finds around it: variables, and a tree of files with a home and a current
directory. -/

namespace ProductCatalog.Config

/-- Variables by their names. An earlier entry hides later ones of the same name. -/
abbrev Variables := List (String × String)

namespace Variables

def define (bindings : Variables) (name value : String) : Variables :=
  match bindings.lookup name with
  | some _ => bindings
  | none => bindings ++ [(name, value)]

end Variables

structure Environment where
  bindings : Variables := []
  surroundings : Files.Surroundings
  files : Files.Tree := {}
deriving DecidableEq

namespace Environment

def valueOf? (environment : Environment) (name : String) : Option String :=
  environment.bindings.lookup name

def expand (environment : Environment) (text : String) : Files.Path :=
  environment.surroundings.expand text

def contains (environment : Environment) (path : Files.Path) : Bool :=
  environment.files.contains environment.surroundings.current path

def isDirectory (environment : Environment) (path : Files.Path) : Bool :=
  environment.files.isDirectory environment.surroundings.current path

def readText (environment : Environment) (path : Files.Path) : Except Files.Fault String :=
  environment.files.readText environment.surroundings.current path

end Environment

end ProductCatalog.Config
