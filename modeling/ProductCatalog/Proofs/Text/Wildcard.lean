import ProductCatalog.Proofs.Text.Like

/-! What patterns match, by their signs. The search for the ends of runs finds every match there is,
and it finds no others. -/

namespace ProductCatalog.Text.Like

/-- How a pattern matches the whole of a text, sign by sign. -/
inductive Matches : List Char → List Char → Prop
  | done : Matches [] []
  | escaped {literal c pattern rest} : letter c = letter literal → Matches pattern rest →
      Matches ('\\' :: literal :: pattern) (c :: rest)
  | run {pattern rest} (skipped : List Char) : Matches pattern rest →
      Matches ('%' :: pattern) (skipped ++ rest)
  | one {pattern rest} (c : Char) : Matches pattern rest → Matches ('_' :: pattern) (c :: rest)
  | plain {literal c pattern rest} : literal ∉ ['\\', '%', '_'] → letter c = letter literal →
      Matches pattern rest → Matches (literal :: pattern) (c :: rest)

theorem sameLetter_iff (literal c : Char) :
    sameLetter literal c = true ↔ letter c = letter literal := by
  rw [sameLetter, beq_iff_eq, eq_comm]

theorem accepts_plain {literal : Char} (ordinary : literal ∉ ['\\', '%', '_'])
    (pattern : List Char) (c : Char) (rest : List Char) :
    accepts (literal :: pattern) (c :: rest) = (sameLetter literal c && accepts pattern rest) := by
  have unmarked : escapeChar literal = [literal] := if_neg (by simpa using ordinary)
  have read := accepts_literal literal pattern (c :: rest)
  rwa [unmarked] at read

theorem accepts_of_matches {pattern text : List Char} (matched : Matches pattern text) :
    accepts pattern text = true := by
  induction matched with
  | done => rfl
  | escaped same _ ih => simp [accepts, sameLetter_iff, same, ih]
  | run skipped _ ih => exact (accepts_percent _ _).mpr ⟨skipped, _, rfl, ih⟩
  | one c _ ih => exact ih
  | plain ordinary same _ ih => simp [accepts_plain ordinary, sameLetter_iff, same, ih]

theorem matches_of_accepts {pattern text : List Char} (accepted : accepts pattern text = true) :
    Matches pattern text := by
  -- the ends of a run are tested by one function, so that its recursion has no case for each end
  induction length : pattern.length using Nat.strongRecOn generalizing pattern text with
  | ind length ih =>
      subst length
      fun_cases accepts pattern text with
      | case1 text =>
          have empty : text = [] := by simpa [accepts] using accepted
          rw [empty]
          exact Matches.done
      | case2 text => simp [accepts] at accepted
      | case3 literal pattern => simp [accepts] at accepted
      | case4 literal pattern c rest =>
          simp only [accepts, Bool.and_eq_true, sameLetter_iff] at accepted
          obtain ⟨same, others⟩ := accepted
          have shorter : pattern.length < ('\\' :: literal :: pattern).length := by
            rw [List.length_cons, List.length_cons]
            omega
          exact Matches.escaped same (ih _ shorter others rfl)
      | case5 pattern text =>
          obtain ⟨skipped, rest, rfl, others⟩ := (accepts_percent pattern text).mp accepted
          exact Matches.run skipped (ih _ (by simp) others rfl)
      | case6 pattern => simp [accepts] at accepted
      | case7 pattern c rest => exact Matches.one c (ih _ (by simp) accepted rfl)
      | case8 literal pattern trailing escape percent underline =>
          simp [accepts] at accepted
      | case9 literal pattern trailing escape percent underline c rest =>
          have ordinary : literal ∉ ['\\', '%', '_'] := by
            have backslash : literal ≠ '\\' := by
              intro same
              cases pattern with
              | nil => exact trailing same rfl
              | cons next others => exact escape next others same rfl
            simp only [List.mem_cons, List.not_mem_nil, or_false, not_or]
            exact ⟨backslash, percent, underline⟩
          rw [accepts_plain ordinary, Bool.and_eq_true, sameLetter_iff] at accepted
          obtain ⟨same, others⟩ := accepted
          exact Matches.plain ordinary same (ih _ (by simp) others rfl)

theorem accepts_iff_matches (pattern text : List Char) :
    accepts pattern text = true ↔ Matches pattern text :=
  ⟨matches_of_accepts, accepts_of_matches⟩

end ProductCatalog.Text.Like
