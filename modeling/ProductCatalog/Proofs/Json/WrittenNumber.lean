import Mathlib.Tactic.IntervalCases
import ProductCatalog.Json.Value
import ProductCatalog.Proofs.Json.Numeral

/-! The numeral that a finite number is written as. -/

namespace ProductCatalog

namespace Decimal

theorem head_toDigits {number : Nat} (positive : 0 < number) :
    (Nat.toDigits 10 number).head? ≠ some '0' := by
  induction number using Nat.strongRecOn with
  | _ number ih =>
      rw [Nat.toDigits_eq_if (by decide)]
      split
      · rename_i digit
        interval_cases number <;> decide
      · rename_i larger
        have shorter := ih (number / 10) (by omega) (by omega)
        rwa [List.head?_append_of_ne_nil _ Nat.toDigits_ne_nil]

/-- A decimal without digits is below all that rounds to a number other than zero. -/
theorem not_readsBack_zero {x : Binary} (nonzero : x.significand ≠ 0) (exponent : Int) :
    x.readsBack ⟨0, exponent⟩ = false := by
  have below {least : Nat} (positive : 0 < least) (power : Int) :
      Scaled.compareBinary ⟨0, exponent⟩ least power = .lt := by
    have scaled : 0 < least * Nat.pow 2 power.toNat * Nat.pow 10 (-exponent).toNat :=
      Nat.mul_pos (Nat.mul_pos positive (Nat.pow_pos (by decide))) (Nat.pow_pos (by decide))
    rw [Scaled.compareBinary, Nat.zero_mul, Nat.zero_mul]
    exact Nat.compare_eq_lt.mpr scaled
  unfold Binary.readsBack
  have positive : 0 < if x.narrowBelow then 4 * x.significand - 1 else 4 * x.significand - 2 := by
    split <;> omega
  simp only [below positive]
  simp

theorem atGrid_digits {x : Binary} (nonzero : x.significand ≠ 0) {exponent : Int} {found : Scaled}
    (grid : x.atGrid? exponent = some found) : found.digits ≠ 0 := by
  have other : x.readsBack found = true := by
    simp only [Binary.atGrid?] at grid
    split at grid
    · cases grid
    · rename_i low high
      cases grid
      exact low
    · rename_i low high
      cases grid
      exact high
    · rename_i low high
      split at grid
      · cases grid
        exact low
      · cases grid
        exact high
      · split at grid
        · cases grid
          exact low
        · cases grid
          exact high
  obtain ⟨digits, exponent⟩ := found
  rintro rfl
  rw [not_readsBack_zero nonzero] at other
  cases other

theorem shortest_digits {x : Binary} (nonzero : x.significand ≠ 0) : x.shortest.digits ≠ 0 := by
  have exact_digits : x.exact.digits ≠ 0 := by
    unfold Binary.exact
    split
    · exact Nat.mul_ne_zero nonzero (Nat.pos_iff_ne_zero.mp (Nat.pow_pos (by decide)))
    · exact Nat.mul_ne_zero nonzero (Nat.pos_iff_ne_zero.mp (Nat.pow_pos (by decide)))
  dsimp only [Binary.shortest]
  cases found :
      (List.range 17).findSome? fun (count : Nat) => x.atGrid? (x.scale - (count + 1)) with
  | none => simpa only [found, Option.getD_none] using exact_digits
  | some decimal =>
      obtain ⟨count, -, grid⟩ := List.exists_of_findSome?_eq_some found
      simpa only [found, Option.getD_some] using atGrid_digits nonzero grid

theorem isDigit_zeros (count : Nat) : ∀ c ∈ List.replicate count '0', isDigit c = true := by
  intro c member
  rw [List.eq_of_mem_replicate member]
  decide

/-- Digits that stand at the beginning of a number. -/
structure Leads (digits : List Char) : Prop where
  some_digit : digits ≠ []
  no_zero : digits.head? ≠ some '0'
  each : ∀ c ∈ digits, isDigit c = true

theorem leads_significantDigits {number : Nat} (positive : 0 < number) :
    Leads (significantDigits (Nat.toDigits 10 number)) := by
  have no_zero := head_toDigits positive
  have each : ∀ c ∈ Nat.toDigits 10 number, isDigit c = true :=
    fun c => Query.isDigit_of_mem_toDigits
  cases digits : Nat.toDigits 10 number with
  | nil => exact absurd digits Nat.toDigits_ne_nil
  | cons first others =>
      rw [digits] at no_zero each
      refine ⟨by simp [significantDigits], no_zero, ?_⟩
      intro c member
      rcases List.mem_append.mp member with member | member
      · exact each c (List.mem_of_mem_take member)
      · rw [List.mem_reverse] at member
        have kept := List.mem_reverse.mp ((List.dropWhile_sublist _).mem member)
        exact each c (List.mem_of_mem_drop kept)

/-- The parts of the text in which digits are laid out. -/
def layOutNumeral (negative : Bool) (digits : List Char) (leading : Int) : Json.Numeral :=
  if leading < plainFrom ∨ plainUpTo < leading then
    ⟨negative, digits.take 1, digits.drop 1, some leading⟩
  else if leading < 0 then
    ⟨negative, ['0'], List.replicate (leading.natAbs - 1) '0' ++ digits, none⟩
  else
    let whole := leading.toNat + 1
    if digits.length ≤ whole then
      ⟨negative, digits ++ List.replicate (whole - digits.length) '0', ['0'], none⟩
    else ⟨negative, digits.take whole, digits.drop whole, none⟩

theorem characters_layOut (negative : Bool) {digits : List Char} (some_digit : digits ≠ [])
    (leading : Int) :
    (layOutNumeral negative digits leading).characters =
      (if negative then ['-'] else []) ++ layOut digits leading := by
  unfold layOutNumeral layOut
  by_cases far : leading < plainFrom ∨ plainUpTo < leading
  · simp only [if_pos far, Json.Numeral.characters, Json.Numeral.fractionCharacters,
      Json.Numeral.powerCharacters]
    cases others : digits.drop 1 with
    | nil => simp
    | cons second others => simp
  · simp only [if_neg far]
    by_cases below : leading < 0
    · simp [if_pos below, Json.Numeral.characters, Json.Numeral.fractionCharacters,
        Json.Numeral.powerCharacters, some_digit]
    · simp only [if_neg below]
      split
      · simp [Json.Numeral.characters, Json.Numeral.fractionCharacters,
          Json.Numeral.powerCharacters]
      · rename_i longer
        have behind : digits.drop (leading.toNat + 1) ≠ [] := by
          rw [Ne, List.drop_eq_nil_iff]
          exact longer
        simp [Json.Numeral.characters, Json.Numeral.fractionCharacters,
          Json.Numeral.powerCharacters, behind]

theorem layOut_proper (negative : Bool) {digits : List Char} (leads : Leads digits)
    (leading : Int) : (layOutNumeral negative digits leading).Proper := by
  obtain ⟨some_digit, no_zero, each⟩ := leads
  obtain ⟨first, others, rfl⟩ := List.exists_cons_of_ne_nil some_digit
  unfold layOutNumeral
  split
  · exact ⟨by simp, fun c member => each c (List.mem_of_mem_take member),
      fun zero => absurd zero no_zero, fun c member => each c (List.mem_of_mem_drop member)⟩
  split
  · refine ⟨by simp, isDigit_zeros 1, fun _ => rfl, ?_⟩
    intro c member
    rcases List.mem_append.mp member with member | member
    · exact isDigit_zeros _ c member
    · exact each c member
  · dsimp only
    split
    · refine ⟨by simp, ?_, fun zero => absurd zero no_zero,
        isDigit_zeros 1⟩
      intro c member
      rcases List.mem_append.mp member with member | member
      · exact each c member
      · exact isDigit_zeros _ c member
    · exact ⟨by simp, fun c member => each c (List.mem_of_mem_take member),
        fun zero => absurd zero no_zero, fun c member => each c (List.mem_of_mem_drop member)⟩

/-- The numeral that is written for a number. -/
def numeral (x : Float) : Json.Numeral :=
  let binary := Binary.ofMagnitude (magnitude x)
  if binary.significand = 0 then ⟨isNegative x, ['0'], ['0'], none⟩
  else
    let digits := Nat.toDigits 10 binary.shortest.digits
    layOutNumeral (isNegative x) (significantDigits digits)
      (binary.shortest.exponent + digits.length - 1)

theorem numeral_proper (x : Float) : (numeral x).Proper := by
  unfold numeral
  dsimp only
  split
  · exact ⟨by simp, isDigit_zeros 1, fun _ => rfl,
      isDigit_zeros 1⟩
  · rename_i nonzero
    exact layOut_proper _ (leads_significantDigits (Nat.pos_of_ne_zero (shortest_digits nonzero))) _

theorem characters_numeral (x : Float) : (numeral x).characters = write x := by
  unfold numeral write writeMagnitude
  dsimp only
  split
  · cases isNegative x <;> rfl
  · rename_i nonzero
    have leads := leads_significantDigits (Nat.pos_of_ne_zero (shortest_digits nonzero))
    rw [characters_layOut _ leads.some_digit]
    cases isNegative x <;> rfl

end Decimal

end ProductCatalog
