import Mathlib.Data.List.TakeWhile
import ProductCatalog.Proofs.Http.Form

/-! Targets with a query: pairs can be put behind every target that has a path. -/

namespace ProductCatalog.Http

namespace Target

theorem isBetween_iff {first last c : Char} :
    isBetween first last c = true ↔ first.toNat ≤ c.toNat ∧ c.toNat ≤ last.toNat := by
  rw [isBetween, Bool.and_eq_true, decide_eq_true_eq, decide_eq_true_eq]
  rfl

theorem isQueryChar_of_isAlphanum {c : Char} (alphanumeric : c.isAlphanum = true) :
    isQueryChar c = true := by
  change ((decide ('A' ≤ c ∧ c ≤ 'Z') || (decide ('a' ≤ c) && decide (c ≤ 'z'))) ||
    (decide ('0' ≤ c) && decide (c ≤ '9'))) = true at alphanumeric
  simp only [Bool.or_eq_true, Bool.and_eq_true, decide_eq_true_eq] at alphanumeric
  change ((65 ≤ c.toNat ∧ c.toNat ≤ 90) ∨ (97 ≤ c.toNat ∧ c.toNat ≤ 122)) ∨
    (48 ≤ c.toNat ∧ c.toNat ≤ 57) at alphanumeric
  simp only [isQueryChar, Bool.or_eq_true, isBetween_iff, decide_eq_true_eq]
  change ((_ ∨ 36 ≤ c.toNat ∧ c.toNat ≤ 59) ∨ _) ∨ 63 ≤ c.toNat
  omega

/-- The characters of written pairs may all stand in a query. -/
theorem isQueryChar_of_mem_encode {pairs : List (String × String)} {c : Char}
    (member : c ∈ Form.encode pairs) : isQueryChar c = true ∧ c ≠ '#' := by
  have written := Form.of_mem_encode member
  simp only [Form.isWritten, Form.isPlain, Bool.or_eq_true, beq_iff_eq] at written
  rcases written with
    (((((((alphanumeric | rfl) | rfl) | rfl) | rfl) | rfl) | rfl) | rfl) | rfl
  · refine ⟨isQueryChar_of_isAlphanum alphanumeric, ?_⟩
    rintro rfl
    exact absurd alphanumeric (by decide)
  all_goals decide

/-- What may stand in a query. -/
def IsQuery (query : List Char) : Prop :=
  ∀ c ∈ query, isQueryChar c = true ∧ c ≠ '#'

/-- A text without query and fragment is all path. -/
theorem all_path {text : List Char} {target : Target} (read : ofPath? text = some target)
    (bare : target.query = none) (whole : '#' ∉ text) : ∀ c ∈ text, (!isPathEnd c) = true := by
  rw [← List.dropWhile_eq_nil_iff]
  cases rest : text.dropWhile (fun c => !isPathEnd c) with
  | nil => rfl
  | cons c others =>
      have stop := List.head?_dropWhile_not (fun c => !isPathEnd c) text
      have member : c ∈ text := (List.dropWhile_sublist _).mem (rest ▸ List.mem_cons_self)
      rw [rest] at stop
      have ends : c = '?' ∨ c = '#' := by
        simpa [isPathEnd, Decidable.or_iff_not_imp_left] using stop
      rcases ends with rfl | rfl
      · simp only [ofPath?, rest, Option.ite_none_right_eq_some, Option.some.injEq] at read
        obtain ⟨-, rfl⟩ := read
        cases bare
      · exact absurd member whole

/-- A character at which a scan stops does not change what was passed before it. -/
theorem scan_append {p : Char → Bool} {c : Char} (stop : p c = false) (text more : List Char) :
    (text ++ c :: more).takeWhile p = text.takeWhile p ∧
      (text ++ c :: more).dropWhile p = text.dropWhile p ++ c :: more := by
  induction text with
  | nil => simp [stop]
  | cons first text ih =>
      by_cases passed : p first = true
      · simp only [List.cons_append, List.takeWhile_cons_of_pos passed,
          List.dropWhile_cons_of_pos passed, ih, and_self]
      · simp only [List.cons_append, List.takeWhile_cons_of_neg passed,
          List.dropWhile_cons_of_neg passed, and_self]

theorem ofPath?_query {text : List Char} {target : Target} (read : ofPath? text = some target)
    (bare : target.query = none) (whole : '#' ∉ text) {query : List Char}
    (fine : IsQuery query) :
    ofPath? (text ++ '?' :: query) = some { target with query := some query } := by
  have path := all_path read bare whole
  have alone : text.dropWhile (fun c => !isPathEnd c) = [] := List.dropWhile_eq_nil_iff.mpr path
  obtain ⟨before, after⟩ :=
    scan_append (p := fun c => !isPathEnd c) (c := '?') (by decide) text query
  have cut : query.takeWhile (· ≠ '#') = query :=
    List.takeWhile_eq_self_iff.mpr fun c member => decide_eq_true (fine c member).2
  have legal : query.all isQueryChar = true :=
    List.all_eq_true.mpr fun c member => (fine c member).1
  simp only [ofPath?, alone, Option.ite_none_right_eq_some, Option.some.injEq] at read
  obtain ⟨⟨legal_path, -⟩, rfl⟩ := read
  simp only [ofPath?, before, after, alone, List.nil_append, cut, Option.getD_some, legal_path,
    legal, and_self, if_true]

theorem sublist_of_afterScheme? {text rest : List Char} (found : afterScheme? text = some rest) :
    rest.Sublist text := by
  rw [afterScheme?] at found
  split at found
  · rename_i behind
    cases found
    have marks : rest.Sublist (text.dropWhile isSchemeChar) := by
      rw [behind]
      exact ((List.sublist_cons_self _ _).trans (List.sublist_cons_self _ _)).trans
        (List.sublist_cons_self _ _)
    exact marks.trans (List.dropWhile_sublist _)
  · cases found

theorem afterScheme?_query {text rest : List Char} (found : afterScheme? text = some rest)
    (query : List Char) : afterScheme? (text ++ '?' :: query) = some (rest ++ '?' :: query) := by
  have stop : isSchemeChar '?' = false := by decide
  rw [afterScheme?, (scan_append stop text query).2]
  rw [afterScheme?] at found
  split at found
  · rename_i behind
    rw [behind]
    cases found
    rfl
  · cases found

theorem ofAbsolute?_query {text : List Char} {target : Target}
    (read : ofAbsolute? text = some target) (bare : target.query = none) (whole : '#' ∉ text)
    {query : List Char} (fine : IsQuery query) :
    ofAbsolute? (text ++ '?' :: query) = some { target with query := some query } := by
  obtain ⟨before, after⟩ :=
    scan_append (p := fun c => !isAuthorityEnd c) (c := '?') (by decide) text query
  simp only [ofAbsolute?, Option.ite_none_right_eq_some] at read
  obtain ⟨authority, path⟩ := read
  have whole_path : '#' ∉ text.dropWhile fun c => !isAuthorityEnd c := fun member =>
    whole ((List.dropWhile_sublist _).mem member)
  simp only [ofAbsolute?, before, after, if_pos authority, ofPath?_query path bare whole_path fine]

/-- A query can be put behind every target that has a path and neither a query nor a fragment. -/
theorem ofText?_query {uri : String} {target : Target} (read : ofText? uri = some target)
    (rooted : target.path.head? = some '/') (bare : target.query = none)
    (whole : '#' ∉ uri.toList) {query : List Char} (fine : IsQuery query)
    (fits : (uri ++ "?" ++ String.ofList query).utf8ByteSize ≤ maxSize) :
    ofText? (uri ++ "?" ++ String.ofList query) = some { target with query := some query } := by
  have characters : (uri ++ "?" ++ String.ofList query).toList = uri.toList ++ '?' :: query := by
    simp [String.toList_append]
  simp only [ofText?, if_neg (Nat.not_lt.mpr fits), characters]
  simp only [ofText?] at read
  generalize uri.toList = text at read whole
  split at read
  · cases read
  split at read
  · cases read
    exact absurd rooted (by decide)
  rename_i no_asterisk
  have still_none : text ++ '?' :: query ≠ ['*'] := by
    cases text with
    | nil => simp
    | cons c text => simp
  rw [if_neg still_none]
  split at read
  · rename_i root
    have still_root : (text ++ '?' :: query).head? = some '/' := by
      rw [List.head?_append, root]
      rfl
    rw [if_pos still_root]
    exact ofPath?_query read bare whole fine
  · rename_i no_root
    have still_no_root : (text ++ '?' :: query).head? ≠ some '/' := by
      cases text with
      | nil => simp
      | cons c text => simpa using no_root
    rw [if_neg still_no_root]
    split at read
    · rename_i rest found
      have stop : isSchemeChar '?' = false := by decide
      have whole_rest : '#' ∉ rest := fun member =>
        whole ((sublist_of_afterScheme? found).mem member)
      rw [afterScheme?_query found]
      simp only [(scan_append stop text query).1]
      simp only [Option.ite_none_left_eq_some] at read
      rw [if_neg read.1]
      exact ofAbsolute?_query read.2 bare whole_rest fine
    · rename_i missing
      simp only [Option.ite_none_right_eq_some] at read
      cases read.2
      cases rooted

end Target

end ProductCatalog.Http
