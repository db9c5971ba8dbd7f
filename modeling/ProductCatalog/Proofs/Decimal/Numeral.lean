import Mathlib.Data.List.Basic
import Mathlib.Data.List.TakeWhile
import ProductCatalog.Decimal.Reading
import ProductCatalog.Proofs.Text.Lowercase

/-! Numerals: the spellings of finite numbers. A numeral has a sign or none, digits with or without
a point among them or at either end, and a power of ten if wanted. Its value is the number nearest
to the decimal that it spells. Reading a text to a finite number is finding its numeral. -/

namespace ProductCatalog.Decimal

inductive Sign where
  | absent
  | plus
  | minus
deriving DecidableEq, Repr

namespace Sign

def characters : Sign → List Char
  | absent => []
  | plus => ['+']
  | minus => ['-']

def isMinus : Sign → Bool
  | minus => true
  | absent | plus => false

end Sign

structure Power where
  mark : Char
  sign : Sign
  digits : List Char
deriving DecidableEq, Repr

namespace Power

def characters (power : Power) : List Char :=
  power.mark :: (power.sign.characters ++ power.digits)

def value (power : Power) : Int :=
  if power.sign.isMinus then -(digitsValue power.digits : Int) else digitsValue power.digits

structure Proper (power : Power) : Prop where
  mark : power.mark = 'e' ∨ power.mark = 'E'
  some_digit : power.digits ≠ []
  digits : ∀ c ∈ power.digits, isDigit c = true

end Power

structure Numeral where
  sign : Sign
  whole : List Char
  /-- The digits behind the point, where there is a point. -/
  fraction : Option (List Char)
  power : Option Power
deriving DecidableEq, Repr

namespace Numeral

def fractionDigits (numeral : Numeral) : List Char :=
  numeral.fraction.getD []

def tail (numeral : Numeral) : List Char :=
  (numeral.fraction.map ('.' :: ·)).getD [] ++ (numeral.power.map Power.characters).getD []

def unsigned (numeral : Numeral) : List Char :=
  numeral.whole ++ numeral.tail

def characters (numeral : Numeral) : List Char :=
  numeral.sign.characters ++ numeral.unsigned

def exponent (numeral : Numeral) : Int :=
  (numeral.power.map Power.value).getD 0 - numeral.fractionDigits.length

def value (numeral : Numeral) : Float :=
  negateIf numeral.sign.isMinus
    (nearest (digitsValue (numeral.whole ++ numeral.fractionDigits)) numeral.exponent)

structure Proper (numeral : Numeral) : Prop where
  some_digit : numeral.whole ≠ [] ∨ numeral.fractionDigits ≠ []
  whole : ∀ c ∈ numeral.whole, isDigit c = true
  fraction : ∀ c ∈ numeral.fractionDigits, isDigit c = true
  power : ∀ power ∈ numeral.power, power.Proper

end Numeral

/-- The text spells the number, which is finite. -/
def Spells (text : List Char) (number : Float) : Prop :=
  ∃ numeral : Numeral, numeral.Proper ∧ numeral.characters = text ∧ numeral.value = number ∧
    isFinite number = true

theorem digitsValue_append_singleton (digits : List Char) (last : Char) :
    digitsValue (digits ++ [last]) = 10 * digitsValue digits + digitValue last := by
  rw [digitsValue, List.foldl_append]
  rfl

theorem takeWhile_digits {digits rest : List Char} (all : ∀ c ∈ digits, isDigit c = true)
    (stop : ∀ c ∈ rest.head?, isDigit c = false) :
    (digits ++ rest).takeWhile isDigit = digits := by
  rw [List.takeWhile_append_of_pos all]
  cases rest with
  | nil => simp
  | cons c rest => simp [stop c rfl]

theorem dropWhile_digits {digits rest : List Char} (all : ∀ c ∈ digits, isDigit c = true)
    (stop : ∀ c ∈ rest.head?, isDigit c = false) :
    (digits ++ rest).dropWhile isDigit = rest := by
  rw [List.dropWhile_append_of_pos all]
  cases rest with
  | nil => rfl
  | cons c rest => simp [stop c rfl]

theorem readSign_characters (sign : Sign) {c : Char} (plain : isDigit c = true ∨ c = '.')
    (rest : List Char) : readSign (sign.characters ++ c :: rest) = (sign.isMinus, c :: rest) := by
  cases sign with
  | plus => rfl
  | minus => rfl
  | absent =>
      rw [Sign.characters, List.nil_append, readSign]
      · rfl
      · rintro others same
        rw [(List.cons.inj same).1] at plain
        exact absurd plain (by decide)
      · rintro others same
        rw [(List.cons.inj same).1] at plain
        exact absurd plain (by decide)

theorem exists_sign (text : List Char) :
    ∃ sign : Sign, sign.characters ++ (readSign text).2 = text ∧
      (readSign text).1 = sign.isMinus := by
  unfold readSign
  split
  · exact ⟨.minus, rfl, rfl⟩
  · exact ⟨.plus, rfl, rfl⟩
  · exact ⟨.absent, rfl, rfl⟩

namespace Power

theorem readExponent_characters {power : Power} (proper : power.Proper) :
    readExponent? power.characters = some power.value := by
  obtain ⟨mark, sign, digits⟩ := power
  obtain ⟨isMark, some_digit, all⟩ := proper
  cases digits with
  | nil => exact absurd rfl some_digit
  | cons c rest =>
      have digit : isDigit c = true := all c List.mem_cons_self
      have every : (c :: rest).all isDigit = true := List.all_eq_true.mpr all
      simp only [characters, readExponent?, readSign_characters sign (.inl digit)]
      rw [if_pos ⟨isMark, some_digit, every⟩]
      rfl

theorem mark_not_digit {power : Power} (proper : power.Proper) :
    isDigit power.mark = false ∧ power.mark ≠ '.' := by
  rcases proper.mark with same | same <;> rw [same] <;> decide

end Power

theorem exists_power {text : List Char} {value : Int} (read : readExponent? text = some value) :
    ∃ power : Option Power, (∀ found ∈ power, found.Proper) ∧
      (power.map Power.characters).getD [] = text ∧ (power.map Power.value).getD 0 = value := by
  cases text with
  | nil => exact ⟨none, by simp, rfl, Option.some.inj read⟩
  | cons mark rest =>
      obtain ⟨sign, whole, negative⟩ := exists_sign rest
      simp only [readExponent?] at read
      split at read
      · rename_i proper
        obtain ⟨isMark, some_digit, all⟩ := proper
        refine ⟨some ⟨mark, sign, (readSign rest).2⟩, ?_, ?_, ?_⟩
        · intro found same
          cases same
          exact ⟨isMark, some_digit, List.all_eq_true.mp all⟩
        · exact congrArg (mark :: ·) whole
        · rw [negative] at read
          exact Option.some.inj read
      · simp at read

/-- Splits the digits behind a point off. -/
def splitFraction : List Char → List Char × List Char
  | '.' :: rest => (rest.takeWhile isDigit, rest.dropWhile isDigit)
  | rest => ([], rest)

theorem readUnsigned_eq (text : List Char) :
    readUnsigned? text =
      let whole := text.takeWhile isDigit
      let (fraction, rest) := splitFraction (text.dropWhile isDigit)
      if whole = [] ∧ fraction = [] then none
      else (readExponent? rest).map fun exponent =>
        (digitsValue (whole ++ fraction), exponent - fraction.length) := rfl

theorem splitFraction_of_no_point {text : List Char} (no_point : ∀ c ∈ text.head?, c ≠ '.') :
    splitFraction text = ([], text) := by
  rw [splitFraction]
  rintro rest rfl
  exact no_point '.' rfl rfl

theorem splitFraction_point {digits rest : List Char} (all : ∀ c ∈ digits, isDigit c = true)
    (stop : ∀ c ∈ rest.head?, isDigit c = false) :
    splitFraction ('.' :: (digits ++ rest)) = (digits, rest) := by
  rw [splitFraction, takeWhile_digits all stop, dropWhile_digits all stop]

theorem exists_fraction (text : List Char) :
    ∃ fraction : Option (List Char),
      (fraction.map ('.' :: ·)).getD [] ++ (splitFraction text).2 = text ∧
      fraction.getD [] = (splitFraction text).1 ∧
      ∀ c ∈ fraction.getD [], isDigit c = true := by
  unfold splitFraction
  split
  · rename_i rest
    refine ⟨some (rest.takeWhile isDigit), ?_, rfl, ?_⟩
    · exact congrArg ('.' :: ·) List.takeWhile_append_dropWhile
    · exact fun c member => List.mem_takeWhile_imp member
  · exact ⟨none, rfl, rfl, by simp⟩

namespace Numeral

theorem power_marked {numeral : Numeral} (proper : numeral.Proper) :
    ∀ c ∈ ((numeral.power.map Power.characters).getD []).head?, isDigit c = false ∧ c ≠ '.' := by
  cases given : numeral.power with
  | none => simp
  | some power =>
      rintro c same
      cases same
      exact Power.mark_not_digit (proper.power power given)

theorem splitFraction_tail {numeral : Numeral} (proper : numeral.Proper) :
    splitFraction numeral.tail =
      (numeral.fractionDigits, (numeral.power.map Power.characters).getD []) := by
  have marked := power_marked proper
  have digits := proper.fraction
  unfold tail
  unfold fractionDigits at digits ⊢
  cases given : numeral.fraction with
  | none => exact splitFraction_of_no_point fun c same => (marked c same).2
  | some fraction =>
      rw [given] at digits
      exact splitFraction_point digits fun c same => (marked c same).1

theorem tail_stops {numeral : Numeral} (proper : numeral.Proper) :
    ∀ c ∈ numeral.tail.head?, isDigit c = false := by
  have marked := power_marked proper
  unfold tail
  cases numeral.fraction with
  | none => exact fun c same => (marked c same).1
  | some fraction =>
      rintro c same
      cases same
      decide

theorem readUnsigned_unsigned {numeral : Numeral} (proper : numeral.Proper) :
    readUnsigned? numeral.unsigned =
      some (digitsValue (numeral.whole ++ numeral.fractionDigits), numeral.exponent) := by
  have stops := tail_stops proper
  have read : readExponent? ((numeral.power.map Power.characters).getD []) =
      some ((numeral.power.map Power.value).getD 0) := by
    cases given : numeral.power with
    | none => rfl
    | some power => exact Power.readExponent_characters (proper.power power given)
  have some_digit : ¬(numeral.whole = [] ∧ numeral.fractionDigits = []) :=
    not_and_or.mpr proper.some_digit
  rw [readUnsigned_eq, unsigned, takeWhile_digits proper.whole stops,
    dropWhile_digits proper.whole stops, splitFraction_tail proper]
  simp only [if_neg some_digit, read, Option.map_some, exponent]

theorem exists_first {numeral : Numeral} (proper : numeral.Proper) :
    ∃ c rest, numeral.unsigned = c :: rest ∧ (isDigit c = true ∨ c = '.') := by
  obtain ⟨sign, whole, fraction, power⟩ := numeral
  cases whole with
  | cons c whole => exact ⟨c, _, rfl, Or.inl (proper.whole c List.mem_cons_self)⟩
  | nil =>
      cases fraction with
      | some fraction => exact ⟨'.', _, rfl, Or.inr rfl⟩
      | none => exact absurd proper.some_digit (by simp [fractionDigits])

end Numeral

theorem namedNumber_eq_none {c : Char} (plain : isDigit c = true ∨ c = '.') (rest : List Char) :
    namedNumber? (c :: rest) = none := by
  have before : c < 'A' := by
    rcases plain with digit | rfl
    · simp only [isDigit, Bool.and_eq_true, decide_eq_true_eq] at digit
      have below : c.toNat ≤ 57 := digit.2
      change c.toNat < 65
      omega
    · decide
  have unnamed : ∀ letter, ¬letter < 'A' → c.toLower ≠ letter := by
    rintro letter notBefore rfl
    rw [Text.toLower_of_apart (Or.inr before)] at notBefore
    exact notBefore before
  unfold namedNumber?
  split
  · rename_i named
    exact absurd (List.cons.inj named).1 (unnamed 'i' (by decide))
  · rename_i named
    exact absurd (List.cons.inj named).1 (unnamed 'i' (by decide))
  · rename_i named
    exact absurd (List.cons.inj named).1 (unnamed 'n' (by decide))
  · rfl

theorem isFinite_namedNumber {text : List Char} {number : Float}
    (named : namedNumber? text = some number) (negative : Bool) :
    isFinite (negateIf negative number) = false := by
  unfold namedNumber? at named
  split at named
  · cases named
    cases negative <;> decide
  · cases named
    cases negative <;> decide
  · cases named
    cases negative <;> decide
  · simp at named

theorem Numeral.read_characters {numeral : Numeral} (proper : numeral.Proper) :
    read? numeral.characters = some numeral.value := by
  obtain ⟨c, rest, first, plain⟩ := numeral.exists_first proper
  have read := numeral.readUnsigned_unsigned proper
  rw [first] at read
  rw [read?, characters, first, readSign_characters _ plain]
  simp only [namedNumber_eq_none plain, read, Option.map_some]
  rfl

theorem exists_unsigned {text : List Char} {digits : Nat} {exponent : Int}
    (read : readUnsigned? text = some (digits, exponent)) (sign : Sign) :
    ∃ numeral : Numeral, numeral.Proper ∧ numeral.sign = sign ∧ numeral.unsigned = text ∧
      digitsValue (numeral.whole ++ numeral.fractionDigits) = digits ∧
      numeral.exponent = exponent := by
  obtain ⟨fraction, point, fractionEq, fractionDigits⟩ := exists_fraction (text.dropWhile isDigit)
  simp only [readUnsigned_eq] at read
  split at read
  · simp at read
  · rename_i some_digit
    obtain ⟨power, powerRead, same⟩ := Option.map_eq_some_iff.mp read
    obtain ⟨found, proper, powerText, powerValue⟩ := exists_power powerRead
    obtain ⟨digitsEq, exponentEq⟩ := Prod.mk.inj same
    refine ⟨⟨sign, text.takeWhile isDigit, fraction, found⟩, ?_, rfl, ?_, ?_, ?_⟩
    · refine ⟨?_, fun c member => List.mem_takeWhile_imp member, fractionDigits, proper⟩
      rw [← fractionEq] at some_digit
      exact not_and_or.mp some_digit
    · simp only [Numeral.unsigned, Numeral.tail, powerText, point,
        List.takeWhile_append_dropWhile]
    · rw [← digitsEq, ← fractionEq]
      rfl
    · rw [← exponentEq, ← powerValue, ← fractionEq]
      rfl

/-- The texts that are read to finite numbers are their numerals. -/
theorem read_finite_iff (text : List Char) (number : Float) :
    read? text = some number ∧ isFinite number = true ↔ Spells text number := by
  constructor
  · rintro ⟨read, finite⟩
    obtain ⟨sign, whole, negative⟩ := exists_sign text
    simp only [read?] at read
    split at read
    · rename_i named found
      cases read
      exact absurd finite (by simp [isFinite_namedNumber found])
    · obtain ⟨value, valueRead, signed⟩ := Option.map_eq_some_iff.mp read
      obtain ⟨⟨digits, exponent⟩, unsigned, rfl⟩ := Option.map_eq_some_iff.mp valueRead
      obtain ⟨numeral, proper, rfl, text, rfl, rfl⟩ := exists_unsigned unsigned sign
      refine ⟨numeral, proper, ?_, ?_, finite⟩
      · rw [Numeral.characters, text, whole]
      · rw [← signed, negative]
        rfl
  · rintro ⟨numeral, proper, rfl, rfl, finite⟩
    exact ⟨numeral.read_characters proper, finite⟩

end ProductCatalog.Decimal
