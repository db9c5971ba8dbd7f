import ProductCatalog.CommandLine.Level

/-! The arguments of the program: settings, and a command to run. Settings may be made before the
command and behind it; those behind it count first, and variables count last. -/

namespace ProductCatalog.CommandLine

open Config (Overrides Variables)

inductive Command where
  | start
  | seed (file : String) (keep : Bool)
deriving DecidableEq, Repr

structure Arguments where
  overrides : Overrides
  command : Option Command
deriving DecidableEq, Repr

def readLevel (bindings : Variables) (level : Level) (words : List String) : Except Stop Said := do
  (← words.foldlM (Progress.take level) {}).finish bindings

def seedCommand (progress : Progress) : Except Stop Command :=
  match progress.file with
  | some file => .ok (.seed file progress.keep)
  | none => .error .missingFile

/-- Help is given on the program, or on a command that is named. -/
def helpOn : List String → Stop
  | [] => .help
  | [command] => if command ∈ commandWords then .help else .unknownCommand
  | _ :: _ :: _ => .unknownCommand

/-- The arguments that the words of the program and those of its command make up. -/
def joinLevels (outer inner : Said) (command : Command) : Arguments where
  overrides :=
    (inner.progress.given.orElse outer.progress.given).orElse
      (inner.fromVariables.orElse outer.fromVariables)
  command := some command

/-- Reads the words that are left, after those that made `progress`. -/
def readFrom (bindings : Variables) (progress : Progress) : List String → Except Stop Arguments
  | [] => do
    let said ← progress.finish bindings
    return ⟨said.progress.given.orElse said.fromVariables, none⟩
  | word :: rest =>
    if progress.mayBeginCommand ∧ word = "help" then .error (helpOn rest)
    else if progress.mayBeginCommand ∧ word = "start" then do
      let inner ← readLevel bindings .start rest
      return joinLevels (← progress.finish bindings) inner .start
    else if progress.mayBeginCommand ∧ word = "seed" then do
      let inner ← readLevel bindings .seed rest
      let command ← seedCommand inner.progress
      return joinLevels (← progress.finish bindings) inner command
    else do
      readFrom bindings (← progress.take .program word) rest

def Arguments.ofWords (bindings : Variables) (words : List String) : Except Stop Arguments :=
  readFrom bindings {} words

end ProductCatalog.CommandLine
