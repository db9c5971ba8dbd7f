import Mathlib.Data.List.Basic
import ProductCatalog.Files.Path

/-! Paths that are put together from others. A name that is absolute takes the place of the path in
front of it; any other one is gone on with from there. -/

namespace ProductCatalog.Files.Path

theorem text_injective {first second : Path} (same : first.text.toList = second.text.toList) :
    first = second := by
  cases first
  cases second
  rw [mk.injEq]
  exact String.toList_inj.mp same

theorem needsSlash_iff (path : Path) :
    path.needsSlash = true ↔ path.text.toList ≠ [] ∧ path.text.toList.getLast? ≠ some '/' := by
  rw [needsSlash, Bool.and_eq_true, decide_eq_true_eq, bne_iff_ne, ne_eq, ne_eq,
    ← String.toList_eq_nil_iff]

/-- What is put behind a path before a name is added to it. -/
def separator (path : Path) : List Char :=
  if path.needsSlash then ['/'] else []

theorem separator_empty {path : Path} (empty : path.text.toList = []) : path.separator = [] := by
  rw [separator, if_neg]
  rw [needsSlash_iff]
  simp [empty]

theorem join_absolute {name : Path} (absolute : name.isAbsolute = true) (path : Path) :
    path.join name = name := by
  rw [join, if_pos absolute]

theorem join_relative {name : Path} (relative : name.isAbsolute = false) (path : Path) :
    (path.join name).text.toList = path.text.toList ++ path.separator ++ name.text.toList := by
  rw [join, relative, separator]
  by_cases slash : path.needsSlash = true <;> simp [slash]

theorem isAbsolute_join (path name : Path) :
    (path.join name).isAbsolute = (path.isAbsolute || name.isAbsolute) := by
  cases absolute : name.isAbsolute with
  | true => rw [join_absolute absolute, absolute, Bool.or_true]
  | false =>
      rw [Bool.or_false, isAbsolute, join_relative absolute]
      cases letters : path.text.toList with
      | cons first rest => simp [isAbsolute, letters]
      | nil =>
          rw [separator_empty letters]
          simpa [isAbsolute, letters] using absolute

theorem separator_join {name : Path} (relative : name.isAbsolute = false) (path : Path) :
    (path.join name).separator = name.separator := by
  have joined := join_relative relative path
  by_cases empty : name.text.toList = []
  · rw [separator_empty empty, separator, if_neg]
    rw [needsSlash_iff, joined, empty, List.append_nil, separator]
    by_cases slash : path.needsSlash = true
    · simp [slash]
    · rwa [if_neg slash, List.append_nil, ← needsSlash_iff]
  · have same_end : (path.join name).text.toList.getLast? = name.text.toList.getLast? := by
      rw [joined, List.getLast?_append_of_ne_nil _ empty]
    have same : (path.join name).needsSlash = name.needsSlash := by
      rw [Bool.eq_iff_iff, needsSlash_iff, needsSlash_iff, same_end, joined]
      simp [empty]
    rw [separator, separator, same]

theorem join_assoc (first second third : Path) :
    (first.join second).join third = first.join (second.join third) := by
  cases third_absolute : third.isAbsolute with
  | true => simp only [join_absolute third_absolute]
  | false =>
      cases second_absolute : second.isAbsolute with
      | true =>
          have whole : (second.join third).isAbsolute = true := by
            rw [isAbsolute_join, second_absolute, Bool.true_or]
          rw [join_absolute second_absolute, join_absolute whole]
      | false =>
          have whole : (second.join third).isAbsolute = false := by
            rw [isAbsolute_join, second_absolute, third_absolute, Bool.or_false]
          apply text_injective
          rw [join_relative third_absolute, join_relative second_absolute,
            separator_join second_absolute, join_relative whole, join_relative third_absolute]
          simp only [List.append_assoc]

/-- The names in a text of a path. -/
def namesIn (text : List Char) : List String :=
  ((text.splitOn '/').map String.ofList).filter fun piece => piece ≠ "" ∧ piece ≠ "."

theorem names_eq (path : Path) : path.names = namesIn path.text.toList := rfl

theorem namesIn_nil : namesIn [] = [] := rfl

theorem namesIn_slash (front back : List Char) :
    namesIn (front ++ '/' :: back) = namesIn front ++ namesIn back := by
  rw [namesIn, List.splitOn_append_cons_self, List.map_append, List.filter_append, namesIn, namesIn]

theorem names_join {name : Path} (relative : name.isAbsolute = false) (path : Path) :
    (path.join name).names = path.names ++ name.names := by
  rw [names_eq, join_relative relative, names_eq, names_eq, separator]
  by_cases slash : path.needsSlash = true
  · rw [if_pos slash, List.append_assoc, List.singleton_append, namesIn_slash]
  · rw [if_neg slash, List.append_nil]
    rw [needsSlash_iff, not_and_or, not_not, not_not] at slash
    rcases slash with empty | last
    · rw [empty, namesIn_nil, List.nil_append, List.nil_append]
    · obtain ⟨front, whole⟩ := List.getLast?_eq_some_iff.mp last
      rw [whole, List.append_assoc, List.singleton_append, namesIn_slash, namesIn_slash,
        namesIn_nil, List.append_nil]

/-- The way along the path begins with all of the way to the directory. -/
structure LeadsThrough (path directory : Path) : Prop where
  start : path.isAbsolute = directory.isAbsolute
  names : directory.names <+: path.names

/-- An added name leads through the directory that it is added to unless it is absolute; then only
if it happens to name the directory itself. -/
theorem join_leadsThrough_iff (directory name : Path) :
    (directory.join name).LeadsThrough directory ↔
      name.isAbsolute = false ∨ name.LeadsThrough directory := by
  cases absolute : name.isAbsolute with
  | true => simp [join_absolute absolute]
  | false =>
      refine iff_of_true ⟨?_, ?_⟩ (Or.inl rfl)
      · rw [isAbsolute_join, absolute, Bool.or_false]
      · rw [names_join absolute]
        exact List.prefix_append _ _

end ProductCatalog.Files.Path
