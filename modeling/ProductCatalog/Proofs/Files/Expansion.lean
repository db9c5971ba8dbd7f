import ProductCatalog.Proofs.Files.Path
import ProductCatalog.Proofs.Text.Trim

/-! Paths as users give them. What is meant is a path from the root, and to give that one in place
of the text means the same. -/

namespace ProductCatalog.Files

open Text (IsTrimmed isBlank trim)

/-- A path from the root without a blank behind it. -/
structure Path.Settled (path : Path) : Prop where
  absolute : path.isAbsolute = true
  ends : ∀ c ∈ path.text.toList.getLast?, isBlank c = false

namespace Path.Settled

theorem head {path : Path} (settled : path.Settled) : path.text.toList.head? = some '/' := by
  have absolute := settled.absolute
  rwa [isAbsolute, beq_iff_eq] at absolute

theorem isTrimmed {path : Path} (settled : path.Settled) : IsTrimmed path.text.toList := by
  refine ⟨?_, settled.ends⟩
  rw [settled.head]
  rintro c ⟨⟩
  decide

theorem join {directory name : Path} (settled : directory.Settled)
    (ends : ∀ c ∈ name.text.toList.getLast?, isBlank c = false) :
    (directory.join name).Settled := by
  refine ⟨?_, ?_⟩
  · rw [isAbsolute_join, settled.absolute, Bool.true_or]
  cases absolute : name.isAbsolute with
  | true => rwa [join_absolute absolute]
  | false =>
      intro c last
      rw [join_relative absolute, List.getLast?_append, List.getLast?_append, separator] at last
      rcases Option.or_eq_some_iff.mp last with behind | ⟨-, before⟩
      · exact ends c behind
      · rcases Option.or_eq_some_iff.mp before with slash | ⟨-, within⟩
        · split at slash
          · cases slash
            decide
          · cases slash
        · exact settled.ends c within

end Path.Settled

namespace Surroundings

/-- The home directory, as it is found from the current one. -/
def homeDirectory (surroundings : Surroundings) : Path :=
  surroundings.current.join surroundings.home

theorem homeDirectory_of_absolute {surroundings : Surroundings}
    (absolute : surroundings.home.isAbsolute = true) :
    surroundings.homeDirectory = surroundings.home :=
  Path.join_absolute absolute _

/-- The path that is meant by a text with no blanks around it. -/
inductive Means (surroundings : Surroundings) : List Char → Path → Prop
  | nothing : Means surroundings [] surroundings.current
  | home : Means surroundings ['~'] surroundings.homeDirectory
  | beneathHome (rest : List Char) : Means surroundings ('~' :: '/' :: rest)
      (surroundings.homeDirectory.join ⟨String.ofList rest⟩)
  | plain {text : List Char} : text ≠ [] → text ≠ ['~'] → (∀ rest, text ≠ '~' :: '/' :: rest) →
      Means surroundings text (surroundings.current.join ⟨String.ofList text⟩)

theorem expand_means (surroundings : Surroundings) (text : String) :
    surroundings.Means (trim text.toList) (surroundings.expand text) := by
  have from_current (path : Path) :
      (if path.isAbsolute then path else surroundings.current.join path) =
        surroundings.current.join path := by
    split
    next absolute => rw [Path.join_absolute absolute]
    next => rfl
  unfold expand
  generalize trim text.toList = trimmed
  dsimp only
  rw [from_current]
  by_cases empty : trimmed = []
  · rw [if_pos empty, empty]
    exact Means.nothing
  · rw [if_neg empty]
    split
    next => exact Means.home
    next rest =>
      rw [← Path.join_assoc]
      exact Means.beneathHome rest
    next not_home not_beneath => exact Means.plain empty not_home not_beneath

theorem expand_beneathHome {surroundings : Surroundings} {text : String} {rest : List Char}
    (tilde : trim text.toList = '~' :: '/' :: rest) :
    surroundings.expand text = surroundings.homeDirectory.join ⟨String.ofList rest⟩ := by
  have means := surroundings.expand_means text
  rw [tilde] at means
  generalize surroundings.expand text = path at means ⊢
  cases means with
  | beneathHome => rfl
  | plain _ _ other => exact absurd rfl (other rest)

variable {surroundings : Surroundings}

theorem expand_settled (home : surroundings.home.Settled) (current : surroundings.current.Settled)
    (text : String) : (surroundings.expand text).Settled := by
  have at_home : surroundings.homeDirectory.Settled := current.join home.ends
  have ends := (Text.trim_isTrimmed text.toList).ends
  have means := surroundings.expand_means text
  generalize trim text.toList = trimmed, surroundings.expand text = path at ends means ⊢
  cases means with
  | nothing => exact current
  | home => exact at_home
  | beneathHome rest =>
      refine at_home.join ?_
      rw [String.toList_ofList]
      intro c last
      refine ends c ?_
      rw [List.getLast?_cons_cons, List.getLast?_cons, Option.mem_def.mp last]
      rfl
  | plain =>
      refine current.join ?_
      rwa [String.toList_ofList]

theorem expand_of_settled {path : Path} (settled : path.Settled) :
    surroundings.expand path.text = path := by
  have head := settled.head
  have whole : path = ⟨String.ofList path.text.toList⟩ := by rw [String.ofList_toList]
  have means := surroundings.expand_means path.text
  rw [settled.isTrimmed.trim_eq] at means
  generalize path.text.toList = letters, surroundings.expand path.text = meant at *
  cases means with
  | nothing => cases head
  | home => cases head
  | beneathHome rest => cases head
  | plain => rw [← whole, Path.join_absolute settled.absolute]

theorem expand_surrounded {before behind : String}
    (blank_before : ∀ c ∈ before.toList, isBlank c = true)
    (blank_behind : ∀ c ∈ behind.toList, isBlank c = true) (text : String) :
    surroundings.expand (before ++ text ++ behind) = surroundings.expand text := by
  simp only [expand, String.toList_append, Text.trim_surrounded blank_before blank_behind]

end Surroundings

end ProductCatalog.Files
