import ProductCatalog.Json.Token
import ProductCatalog.Proofs.Decimal.Numeral
import ProductCatalog.Proofs.Query.WrittenNumber

/-! Numerals in a JSON text: each is read as one token, up to what stands behind it. -/

namespace ProductCatalog.Json

open Decimal (isDigit takeWhile_digits dropWhile_digits)

/-- What may stand behind a numeral without being taken for a part of it. -/
def IsStop (rest : List Char) : Prop :=
  ∀ c ∈ rest.head?, isDigit c = false ∧ c ≠ '.' ∧ c ≠ 'e' ∧ c ≠ 'E'

namespace Numeral

def fractionCharacters (numeral : Numeral) : List Char :=
  if numeral.fraction = [] then [] else '.' :: numeral.fraction

def powerCharacters (numeral : Numeral) : List Char :=
  match numeral.power with
  | none => []
  | some power => 'e' :: (if power < 0 then '-' else '+') :: Nat.toDigits 10 power.natAbs

def characters (numeral : Numeral) : List Char :=
  (if numeral.negative then ['-'] else []) ++ numeral.whole ++ numeral.fractionCharacters ++
    numeral.powerCharacters

structure Proper (numeral : Numeral) : Prop where
  some_digit : numeral.whole ≠ []
  whole : ∀ c ∈ numeral.whole, isDigit c = true
  no_zero : numeral.whole.head? = some '0' → numeral.whole.length = 1
  fraction : ∀ c ∈ numeral.fraction, isDigit c = true

theorem isStop_power (numeral : Numeral) {rest : List Char} (stop : IsStop rest) :
    ∀ c ∈ (numeral.powerCharacters ++ rest).head?, isDigit c = false ∧ c ≠ '.' := by
  unfold powerCharacters
  cases numeral.power with
  | none =>
      intro c first
      exact ⟨(stop c first).1, (stop c first).2.1⟩
  | some power =>
      rintro c ⟨⟩
      decide

theorem isStop_fraction (numeral : Numeral) {rest : List Char} (stop : IsStop rest) :
    ∀ c ∈ (numeral.fractionCharacters ++ (numeral.powerCharacters ++ rest)).head?,
      isDigit c = false := by
  unfold fractionCharacters
  split
  · exact fun c first => (isStop_power numeral stop c first).1
  · rintro c ⟨⟩
    decide

theorem readPower_characters (numeral : Numeral) {rest : List Char} (stop : IsStop rest) :
    readPower { numeral with power := none } (numeral.powerCharacters ++ rest) =
      (.numeral numeral, rest) := by
  obtain ⟨negative, whole, fraction, power⟩ := numeral
  cases power with
  | none =>
      simp only [powerCharacters, List.nil_append]
      cases rest with
      | nil => rfl
      | cons c rest =>
          have other := stop c rfl
          rw [readPower, if_neg (by simp [other.2.2])]
  | some power =>
      have digits : ∀ c ∈ Nat.toDigits 10 power.natAbs, isDigit c = true :=
        fun c => Query.isDigit_of_mem_toDigits
      have ends : ∀ c ∈ rest.head?, isDigit c = false := fun c first => (stop c first).1
      have value : (if decide (power < 0) = true then -(power.natAbs : Int) else power.natAbs) =
          power := by
        by_cases below : power < 0
        · simp only [below, decide_true, if_true]
          omega
        · simp only [below, decide_false, Bool.false_eq_true, if_false]
          omega
      have sign : Decimal.readSign
          ((if power < 0 then '-' else '+') :: (Nat.toDigits 10 power.natAbs ++ rest)) =
          (decide (power < 0), Nat.toDigits 10 power.natAbs ++ rest) := by
        by_cases below : power < 0
        · simp only [below, if_true, decide_true]
          rfl
        · simp only [below, if_false, decide_false]
          rfl
      simp only [powerCharacters, List.cons_append, readPower, true_or, if_true, sign,
        takeWhile_digits digits ends, dropWhile_digits digits ends, Nat.toDigits_ne_nil, if_false,
        Query.digitsValue_toDigits, value]

theorem readNumeral_characters {numeral : Numeral} (proper : numeral.Proper) {first : Char}
    {others : List Char} (whole : numeral.whole = first :: others) {rest : List Char}
    (stop : IsStop rest) :
    readNumeral numeral.negative first
      (others ++ (numeral.fractionCharacters ++ (numeral.powerCharacters ++ rest))) =
      (.numeral numeral, rest) := by
  have digits : ∀ c ∈ others, isDigit c = true := fun c member =>
    proper.whole c (whole ▸ List.mem_cons_of_mem first member)
  have ends := isStop_fraction numeral stop
  have no_zero : ¬(first = '0' ∧ 1 < (first :: others).length) := by
    rintro ⟨rfl, long⟩
    have short := proper.no_zero (by rw [whole]; rfl)
    rw [whole] at short
    omega
  have power := readPower_characters numeral stop
  rw [whole] at power
  simp only [readNumeral, takeWhile_digits digits ends, dropWhile_digits digits ends,
    if_neg no_zero]
  by_cases fraction : numeral.fraction = []
  · rw [fraction] at power
    simp only [fractionCharacters, fraction, if_true, List.nil_append]
    have no_point := isStop_power numeral stop
    split
    · rename_i found
      exact absurd rfl (no_point '.' (by rw [found]; rfl)).2
    · exact power
  · have fraction_digits := proper.fraction
    have fraction_ends : ∀ c ∈ (numeral.powerCharacters ++ rest).head?, isDigit c = false :=
      fun c member => (isStop_power numeral stop c member).1
    simp only [fractionCharacters, fraction, if_false, List.cons_append,
      takeWhile_digits fraction_digits fraction_ends,
      dropWhile_digits fraction_digits fraction_ends]
    exact power

theorem readToken_digit {c : Char} (digit : isDigit c = true) (text : List Char) :
    readToken c text = readNumeral false c text := by
  unfold readToken
  split <;> first | exact absurd digit (by decide) | exact if_pos digit

theorem isBlank_of_isDigit {c : Char} (digit : isDigit c = true) : isBlank c = false := by
  rw [← Bool.not_eq_true]
  intro blank
  simp only [isBlank, Bool.or_eq_true, decide_eq_true_eq] at blank
  rcases blank with ((rfl | rfl) | rfl) | rfl <;> exact absurd digit (by decide)

theorem readToken_characters {numeral : Numeral} (proper : numeral.Proper) {rest : List Char}
    (stop : IsStop rest) :
    ∃ c text, numeral.characters ++ rest = c :: text ∧ isBlank c = false ∧
      readToken c text = (.numeral numeral, rest) := by
  obtain ⟨first, others, whole⟩ := List.exists_cons_of_ne_nil proper.some_digit
  have digit : isDigit first = true := proper.whole first (whole ▸ List.mem_cons_self)
  have read := readNumeral_characters proper whole stop
  cases sign : numeral.negative with
  | true =>
      refine ⟨'-', first :: (others ++ (numeral.fractionCharacters ++
        (numeral.powerCharacters ++ rest))), ?_, by decide, ?_⟩
      · simp [characters, sign, whole]
      · rw [sign] at read
        exact (if_pos digit).trans read
  | false =>
      refine ⟨first, others ++ (numeral.fractionCharacters ++ (numeral.powerCharacters ++ rest)),
        ?_, ?_, ?_⟩
      · simp [characters, sign, whole]
      · exact isBlank_of_isDigit digit
      · rw [sign] at read
        rw [readToken_digit digit, read]

theorem tokens_characters {numeral : Numeral} (proper : numeral.Proper) {rest : List Char}
    (stop : IsStop rest) :
    tokens (numeral.characters ++ rest) = .numeral numeral :: tokens rest := by
  obtain ⟨c, text, written, solid, read⟩ := readToken_characters proper stop
  rw [written, tokens, if_neg (by simp [solid]), read]

end Numeral

end ProductCatalog.Json
