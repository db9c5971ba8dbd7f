import ProductCatalog.CommandLine.Setting
import ProductCatalog.CommandLine.Word

/-! The words that belong to the program, and those that belong to one of its commands. Both are
read alike, from left to right. The value of a setting is looked at only when the next argument
begins. -/

namespace ProductCatalog.CommandLine

open Config (Overrides Variables)

inductive Level where
  | program
  | start
  | seed
deriving DecidableEq, Repr

def commandWords : List String := ["start", "seed", "help"]

/-- What a name in front of its dashes or dash stands for. -/
inductive Key where
  | setting (setting : Setting)
  | help
  | version
  | keep
deriving DecidableEq, Repr

namespace Level

def ofLongName? (level : Level) (name : String) : Option Key :=
  match Setting.all.find? (·.name = name) with
  | some setting => some (.setting setting)
  | none =>
    if name = "help" then some .help
    else if name = "version" ∧ level = program then some .version
    else if name = "keep" ∧ level = seed then some .keep
    else none

def ofShortName? (level : Level) (letter : Char) : Option Key :=
  match Setting.all.find? (·.letter = letter) with
  | some setting => some (.setting setting)
  | none =>
    if letter = 'h' then some .help
    else if letter = 'V' ∧ level = program then some .version
    else none

end Level

inductive Pending where
  | nothing
  | awaited (setting : Setting)
  | setting (setting : Setting) (value : String)
  | file (path : String)
deriving DecidableEq, Repr

structure Progress where
  given : Overrides := {}
  file : Option String := none
  keep : Bool := false
  pending : Pending := .nothing
  separated : Bool := false
deriving DecidableEq, Repr

namespace Progress

def settle (progress : Progress) : Except Stop Progress :=
  match progress.pending with
  | .nothing => .ok progress
  | .awaited _ => .error .missingValue
  | .setting setting value => do
    let given ← setting.makeOnce progress.given value
    return { progress with given, pending := .nothing }
  | .file path => do
    let path ← checkPath path
    return { progress with file := some path, pending := .nothing }

/-- Takes in the name of a setting, with its value if that is part of the same word. -/
def takeSetting (progress : Progress) (setting : Setting) (value : Option String) :
    Except Stop Progress := do
  let progress ← progress.settle
  match value with
  | none => return { progress with pending := .awaited setting }
  | some value =>
    let given ← setting.makeOnce progress.given value
    return { progress with given }

def takeKey (progress : Progress) (value : Option String) : Key → Except Stop Progress
  | .setting setting => progress.takeSetting setting value
  | .help => progress.settle.bind fun _ => .error .help
  | .version => progress.settle.bind fun _ => .error .version
  | .keep => do
    let progress ← progress.settle
    if progress.keep then throw .repeated
    return { progress with keep := true }

/-- The file is there, or is the argument that is being read. -/
def hasFile (progress : Progress) : Bool :=
  match progress.file, progress.pending with
  | none, .nothing | none, .awaited _ | none, .setting _ _ => false
  | some _, _ | none, .file _ => true

/-- Takes in a word that is neither a name nor the value of a setting. Only a seed has use for one.
-/
def takePlain (level : Level) (progress : Progress) (word : String) : Except Stop Progress :=
  match level with
  | .program =>
    .error (if progress.separated ∧ word ∈ commandWords then .unknownArgument else .unknownCommand)
  | .start => .error .unknownArgument
  | .seed =>
    if progress.hasFile then .error .unknownArgument
    else progress.settle.map fun progress => { progress with pending := .file word }

def take (level : Level) (progress : Progress) (word : String) : Except Stop Progress :=
  if progress.separated then progress.takePlain level word
  else
    match Word.ofChars word.toList with
    | .separator => .ok { progress with separated := true }
    | .long name value =>
      match level.ofLongName? name, value with
      | none, _ => .error .unknownArgument
      | some (.setting setting), value => progress.takeSetting setting value
      | some _, some _ => .error .needlessValue
      | some key, none => progress.takeKey none key
    | .short letter attached =>
      match level.ofShortName? letter with
      | none => .error .unknownArgument
      | some key => progress.takeKey (attachedValue? attached) key
    | .plain =>
      match progress.pending with
      | .awaited setting => .ok { progress with pending := .setting setting word }
      | _ => progress.takePlain level word

/-- Whether the next word may begin the words of a command. -/
def mayBeginCommand (progress : Progress) : Bool :=
  match progress.pending with
  | .awaited _ => false
  | _ => !progress.separated

end Progress

/-- What all words of a level say, and what variables say in place of the settings that are not made
there. -/
structure Said where
  progress : Progress
  fromVariables : Overrides
deriving DecidableEq, Repr

/-- At the end of a level its last argument is complete. -/
def Progress.finish (bindings : Variables) (progress : Progress) : Except Stop Said := do
  let progress ← progress.settle
  let fromVariables ← overridesFrom bindings progress.given
  return { progress, fromVariables }

end ProductCatalog.CommandLine
