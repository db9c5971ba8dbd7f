import Mathlib.Data.List.Induction
import Mathlib.Data.Nat.Digits.Defs
import ProductCatalog.Proofs.Decimal.Numeral
import ProductCatalog.Proofs.Query.Canonical

/-! The numbers of pages and of products on a page. A text of digits counts for its exact value,
however long it is: it is either read as that value or not read at all. Nor does the number of the
products that are skipped wrap around. -/

namespace ProductCatalog.Query

open Decimal (isDigit digitValue digitsValue)

/-- Decimal digits, with zeros in front or not, behind one plus or none. Blanks around them do not
matter. -/
def CountsTo (text : List Char) (number : Nat) : Prop :=
  ∃ digits, (Text.trim text = digits ∨ Text.trim text = '+' :: digits) ∧ digits ≠ [] ∧
    (∀ c ∈ digits, isDigit c = true) ∧
    Nat.ofDigits 10 (digits.reverse.map digitValue) = number

/-- The number that a value stands for: what its text counts to, or the default where there is no
text or it counts to nothing in range. -/
inductive StandsFor (default : UInt32) : Option String → Nat → Prop
  | counted {text number} : CountsTo text.toList number → 1 ≤ number → number ≤ 4294967295 →
      StandsFor default (some text) number
  | uncounted {text} :
      (∀ number, CountsTo text.toList number → ¬(1 ≤ number ∧ number ≤ 4294967295)) →
      StandsFor default (some text) default.toNat
  | absent : StandsFor default none default.toNat

/-- One more digit behind a number, where the result still has 32 bits. -/
def appendDigit? (word : UInt32) (c : Char) : Option UInt32 :=
  if isDigit c ∧ 10 * word.toNat + digitValue c < UInt32.size then
    some (10 * word + UInt32.ofNat (digitValue c))
  else none

/-- Reads a number digit by digit in 32 bits and gives up at the first that does not fit. -/
def accumulate? (text : List Char) : Option UInt32 :=
  if withoutPlus text = [] then none else (withoutPlus text).foldlM appendDigit? 0

theorem digitsValue_eq_ofDigits (digits : List Char) :
    digitsValue digits = Nat.ofDigits 10 (digits.reverse.map digitValue) := by
  rw [Nat.ofDigits_eq_foldr, List.foldr_map, List.foldr_reverse, digitsValue]
  simp only [Nat.cast_id, Nat.add_comm]

theorem countsTo_iff (text : List Char) (word : UInt32) :
    CountsTo text word.toNat ↔ readWord? (Text.trim text) = some word := by
  rw [readWord_eq_some_iff]
  constructor
  · rintro ⟨digits, whole, some_digit, each, value⟩
    have unsigned : withoutPlus (Text.trim text) = digits := by
      rcases whole with plain | signed
      · rw [plain, withoutPlus_digits each]
      · rw [signed, withoutPlus]
    rw [unsigned, digitsValue_eq_ofDigits]
    exact ⟨some_digit, each, value⟩
  · rintro ⟨some_digit, each, value⟩
    rw [digitsValue_eq_ofDigits] at value
    exact ⟨_, eq_withoutPlus_or _, some_digit, each, value⟩

theorem appendDigit_eq_some_iff (word next : UInt32) (c : Char) :
    appendDigit? word c = some next ↔
      isDigit c = true ∧ 10 * word.toNat + digitValue c = next.toNat := by
  have value (small : 10 * word.toNat + digitValue c < UInt32.size) :
      (10 * word + UInt32.ofNat (digitValue c)).toNat = 10 * word.toNat + digitValue c := by
    change 10 * word.toNat + digitValue c < 2 ^ 32 at small
    simp only [UInt32.toNat_add, UInt32.toNat_mul, UInt32.toNat_ofNat, UInt32.toNat_ofNat']
    omega
  unfold appendDigit?
  constructor
  · intro appended
    split at appended
    next proper =>
      refine ⟨proper.1, ?_⟩
      rw [← Option.some.inj appended, value proper.2]
    next => cases appended
  · rintro ⟨digit, same⟩
    have small : 10 * word.toNat + digitValue c < UInt32.size := by
      rw [same]
      exact next.toNat_lt
    rw [if_pos ⟨digit, small⟩]
    exact congrArg some (UInt32.toNat_inj.mp ((value small).trans same))

/-- The word that is kept while digits are appended is their exact value. -/
theorem foldlM_appendDigit (digits : List Char) (word : UInt32) :
    digits.foldlM appendDigit? 0 = some word ↔
      (∀ c ∈ digits, isDigit c = true) ∧ digitsValue digits = word.toNat := by
  induction digits using List.reverseRecOn generalizing word with
  | nil =>
      constructor
      · rintro ⟨⟩
        exact ⟨by simp, rfl⟩
      · rintro ⟨_, value⟩
        exact congrArg some (UInt32.toNat_inj.mp value)
  | append_singleton digits c ih =>
      have appended : (digits ++ [c]).foldlM appendDigit? 0 =
          (digits.foldlM appendDigit? 0).bind (appendDigit? · c) := by
        rw [List.foldlM_append]
        simp
      rw [Decimal.digitsValue_append_singleton, appended, Option.bind_eq_some_iff]
      constructor
      · rintro ⟨before, kept, last⟩
        obtain ⟨each, value⟩ := (ih before).mp kept
        obtain ⟨digit, next⟩ := (appendDigit_eq_some_iff before word c).mp last
        refine ⟨?_, by rw [value, next]⟩
        simp only [List.forall_mem_append, List.forall_mem_singleton]
        exact ⟨each, digit⟩
      · rintro ⟨each, value⟩
        simp only [List.forall_mem_append, List.forall_mem_singleton] at each
        -- A value past the limit never falls below it again, so the digits before fit as well.
        have limit := word.toNat_lt
        have small : digitsValue digits < UInt32.size := by
          change digitsValue digits < 2 ^ 32
          omega
        have kept : (UInt32.ofNat (digitsValue digits)).toNat = digitsValue digits :=
          UInt32.toNat_ofNat_of_lt' small
        refine ⟨UInt32.ofNat (digitsValue digits), (ih _).mpr ⟨each.1, kept.symm⟩, ?_⟩
        exact (appendDigit_eq_some_iff _ word c).mpr ⟨each.2, by rw [kept, value]⟩

theorem readWord_eq_accumulate (text : List Char) : readWord? text = accumulate? text := by
  apply Option.ext
  intro word
  rw [readWord_eq_some_iff, accumulate?]
  split
  next empty => simp [empty]
  next some_digit => simp [some_digit, foldlM_appendDigit]

theorem readPositive_some (text : String) (default : UInt32) :
    readPositive (some text) default =
      match readWord? (Text.trim text.toList) with
      | none => default
      | some word => if word = 0 then default else word := rfl

theorem readPositive_of_counted {text : String} {word : UInt32} (default : UInt32)
    (counts : CountsTo text.toList word.toNat) (positive : word ≠ 0) :
    readPositive (some text) default = word := by
  rw [countsTo_iff] at counts
  simp only [readPositive_some, counts, if_neg positive]

theorem readPositive_of_uncounted {text : String} (default : UInt32)
    (other : ∀ number, CountsTo text.toList number → ¬(1 ≤ number ∧ number ≤ 4294967295)) :
    readPositive (some text) default = default := by
  rw [readPositive_some]
  cases read : readWord? (Text.trim text.toList) with
  | none => rfl
  | some word =>
      have bounds := other word.toNat ((countsTo_iff _ word).mpr read)
      have limit := word.toNat_lt
      have zero : word = 0 := UInt32.toNat_inj.mp (by change word.toNat = 0; omega)
      exact if_pos zero

theorem exists_standsFor (value : Option String) (default : UInt32) :
    ∃ number, StandsFor default value number := by
  cases value with
  | none => exact ⟨default.toNat, StandsFor.absent⟩
  | some text =>
      by_cases counted : ∃ number, CountsTo text.toList number ∧ 1 ≤ number ∧ number ≤ 4294967295
      · obtain ⟨number, counts, least, most⟩ := counted
        exact ⟨number, StandsFor.counted counts least most⟩
      · refine ⟨default.toNat, StandsFor.uncounted ?_⟩
        intro number counts bounds
        exact counted ⟨number, counts, bounds⟩

theorem toNat_readPositive {value : Option String} {default : UInt32} {number : Nat}
    (stands : StandsFor default value number) : (readPositive value default).toNat = number := by
  cases stands with
  | absent => rfl
  | uncounted other => rw [readPositive_of_uncounted default other]
  | counted counts least most =>
      have small : (UInt32.ofNat number).toNat = number :=
        UInt32.toNat_ofNat_of_lt' (by change number < 2 ^ 32; omega)
      rw [← small] at counts
      rw [readPositive_of_counted default counts (ne_zero_of_one_le (by omega)), small]

theorem toNat_readPositive_eq_iff (value : Option String) (default : UInt32) (number : Nat) :
    (readPositive value default).toNat = number ↔ StandsFor default value number := by
  constructor
  · rintro rfl
    obtain ⟨number, stands⟩ := exists_standsFor value default
    rwa [toNat_readPositive stands]
  · exact toNat_readPositive

/-! How many products are skipped. -/

theorem toNat_earlierPages (page : UInt32) : (page - min page 1).toNat = page.toNat - 1 := by
  have least : min page 1 = if page ≤ 1 then page else 1 := rfl
  by_cases first : page ≤ 1
  · have bound : page.toNat ≤ 1 := first
    rw [least, if_pos first, UInt32.sub_self]
    change 0 = page.toNat - 1
    omega
  · have bound : ¬page.toNat ≤ 1 := first
    have below : (1 : UInt32) ≤ page := by
      change 1 ≤ page.toNat
      omega
    rw [least, if_neg first, UInt32.toNat_sub_of_le _ _ below]
    rfl

theorem offset_toNat (policy : Policy) :
    policy.offset.toNat = (policy.page.toNat - 1) * policy.limit.toNat := by
  have pageBound := policy.page.toNat_lt
  have limitBound := policy.limit.toNat_lt
  have fits : (policy.page.toNat - 1) * policy.limit.toNat < 2 ^ 64 := by
    calc (policy.page.toNat - 1) * policy.limit.toNat
        ≤ (2 ^ 32 - 2) * (2 ^ 32 - 1) := Nat.mul_le_mul (by omega) (by omega)
      _ < 2 ^ 64 := by decide
  rw [Policy.offset, UInt64.toNat_mul, UInt32.toNat_toUInt64, UInt32.toNat_toUInt64,
    toNat_earlierPages]
  exact Nat.mod_eq_of_lt fits

theorem offset_of_readPositive (value : Option String) {default : UInt32} (positive : default ≠ 0)
    {policy : Policy} (page : policy.page = readPositive value default) :
    (policy.offset.toNat : Int) = (policy.page.toNat - 1) * policy.limit.toNat := by
  have least : 1 ≤ policy.page.toNat := by
    rw [page]
    exact (readPositive_bounds value positive).1
  rw [offset_toNat, Int.natCast_mul, Int.natCast_sub least]
  rfl

/-- A value stands for the number that its text counts to, where that is from 1 to 4294967295, and
for the default otherwise; reading the digits one after the other in 32 bits comes to the same. The
products that are skipped are those of all pages before, exactly as many as there are on them. -/
theorem page_numbers_exact :
    (∀ (value : Option String) (default : UInt32) (number : Nat),
      (readPositive value default).toNat = number ↔ StandsFor default value number) ∧
    (∀ text, readWord? text = accumulate? text) ∧
    (∀ policy : Policy,
      policy.offset.toNat = (policy.page.toNat - 1) * policy.limit.toNat) ∧
    ∀ (value : Option String) (default : UInt32) (policy : Policy),
      default ≠ 0 → policy.page = readPositive value default →
      (policy.offset.toNat : Int) = (policy.page.toNat - 1) * policy.limit.toNat := by
  refine ⟨toNat_readPositive_eq_iff, readWord_eq_accumulate, offset_toNat, ?_⟩
  intro value default policy positive page
  exact offset_of_readPositive value positive page

example : (["4294967295", " +007\n", "4294967296", "0", "++7", "٧"].map fun text =>
    readPositive (some text) 10) = [4294967295, 7, 10, 10, 10, 10] := by decide

end ProductCatalog.Query
