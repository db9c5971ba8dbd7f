import Mathlib.Data.List.DropRight
import ProductCatalog.Text.Blank

/-! Trimming takes away blanks at both ends, as many as there are, and nothing else. -/

namespace ProductCatalog.Text

/-- Not a blank at either end. -/
structure IsTrimmed (text : List Char) : Prop where
  starts : ∀ c ∈ text.head?, isBlank c = false
  ends : ∀ c ∈ text.getLast?, isBlank c = false

theorem dropWhile_of_head {text : List Char} (starts : ∀ c ∈ text.head?, isBlank c = false) :
    text.dropWhile isBlank = text := by
  cases text with
  | nil => rfl
  | cons c rest => simp [starts c rfl]

theorem head?_dropWhile_isBlank (text : List Char) :
    ∀ c ∈ (text.dropWhile isBlank).head?, isBlank c = false := by
  intro c first
  have stops := List.head?_dropWhile_not isBlank text
  rwa [Option.mem_def.mp first] at stops

theorem getLast?_trimEnd (text : List Char) :
    ∀ c ∈ (trimEnd text).getLast?, isBlank c = false := by
  rw [trimEnd, List.getLast?_reverse]
  exact head?_dropWhile_isBlank text.reverse

theorem trimEnd_prefix (text : List Char) : trimEnd text <+: text :=
  List.rdropWhile_prefix isBlank text

theorem trim_isTrimmed (text : List Char) : IsTrimmed (trim text) := by
  refine ⟨?_, getLast?_trimEnd (trimStart text)⟩
  obtain ⟨cut, whole⟩ := trimEnd_prefix (trimStart text)
  have starts := head?_dropWhile_isBlank text
  change ∀ c ∈ (trimStart text).head?, isBlank c = false at starts
  rw [← whole] at starts
  intro c first
  refine starts c ?_
  rw [List.head?_append]
  exact Option.mem_def.mpr (Option.or_eq_some_iff.mpr (Or.inl first))

theorem IsTrimmed.trim_eq {text : List Char} (trimmed : IsTrimmed text) : trim text = text := by
  have start : trimStart text = text := dropWhile_of_head trimmed.starts
  have back : text.reverse.dropWhile isBlank = text.reverse := by
    refine dropWhile_of_head ?_
    rw [List.head?_reverse]
    exact trimmed.ends
  rw [trim, start, trimEnd, back, List.reverse_reverse]

theorem trimEnd_append_blanks {blanks : List Char} (blank : ∀ c ∈ blanks, isBlank c = true)
    (text : List Char) : trimEnd (text ++ blanks) = trimEnd text := by
  rw [trimEnd, List.reverse_append, List.dropWhile_append_of_pos, trimEnd]
  simpa only [List.mem_reverse] using blank

theorem trim_surrounded {before behind : List Char} (blank_before : ∀ c ∈ before, isBlank c = true)
    (blank_behind : ∀ c ∈ behind, isBlank c = true) (text : List Char) :
    trim (before ++ text ++ behind) = trim text := by
  rw [trim, trimStart, List.append_assoc, List.dropWhile_append_of_pos blank_before,
    List.dropWhile_append]
  split
  next only_blanks =>
    have nothing : behind.dropWhile isBlank = [] := List.dropWhile_eq_nil_iff.mpr blank_behind
    rw [nothing, trim, trimStart, List.isEmpty_iff.mp only_blanks]
  next => exact trimEnd_append_blanks blank_behind _

end ProductCatalog.Text
