import Mathlib.Data.List.Basic
import ProductCatalog.Query.Policy

/-! The numbers of pages and limits: which texts are read, and that what a client writes in decimal
is read back. -/

namespace ProductCatalog.Query

theorem isBlank_of_isDigit {c : Char} (digit : Decimal.isDigit c = true) :
    Text.isBlank c = false := by
  simp only [Decimal.isDigit, Bool.and_eq_true, decide_eq_true_eq] at digit
  have above : 48 ≤ c.toNat := digit.1
  have below : c.toNat ≤ 57 := digit.2
  simp only [Text.isBlank, Text.inRanges, Text.blankRanges, List.any_cons, List.any_nil,
    Bool.or_eq_false_iff, Bool.and_eq_false_iff, decide_eq_false_iff_not, and_true]
  omega

theorem trim_of_not_blank {text : List Char} (solid : ∀ c ∈ text, Text.isBlank c = false) :
    Text.trim text = text := by
  have kept {part : List Char} (within : part ⊆ text) : part.dropWhile Text.isBlank = part := by
    cases part with
    | nil => rfl
    | cons c rest => simp [solid c (within List.mem_cons_self)]
  rw [Text.trim, Text.trimStart, kept (List.Subset.refl text), Text.trimEnd,
    kept (List.reverse_subset.mpr (List.Subset.refl text)), List.reverse_reverse]

theorem isDigit_of_mem_toDigits {c : Char} {number : Nat} (member : c ∈ Nat.toDigits 10 number) :
    Decimal.isDigit c = true := by
  have digit := Nat.isDigit_of_mem_toDigits (by decide) (by decide) member
  simp only [Char.isDigit, Bool.and_eq_true, decide_eq_true_eq] at digit
  simp only [Decimal.isDigit, Bool.and_eq_true, decide_eq_true_eq]
  exact digit

theorem digitsValue_toDigits (number : Nat) :
    Decimal.digitsValue (Nat.toDigits 10 number) = number :=
  Nat.ofDigitChars_ten_toDigits

def withoutPlus (text : List Char) : List Char :=
  match text with
  | '+' :: rest => rest
  | _ => text

theorem eq_withoutPlus_or (text : List Char) :
    text = withoutPlus text ∨ text = '+' :: withoutPlus text := by
  unfold withoutPlus
  split
  · exact Or.inr rfl
  · exact Or.inl rfl

theorem withoutPlus_digits {digits : List Char} (each : ∀ c ∈ digits, Decimal.isDigit c = true) :
    withoutPlus digits = digits := by
  unfold withoutPlus
  split
  · rename_i rest
    exact absurd (each '+' List.mem_cons_self) (by decide)
  · rfl

theorem readWord_eq (text : List Char) :
    readWord? text =
      if withoutPlus text ≠ [] ∧ (withoutPlus text).all Decimal.isDigit ∧
          Decimal.digitsValue (withoutPlus text) < UInt32.size then
        some (UInt32.ofNat (Decimal.digitsValue (withoutPlus text)))
      else none := rfl

theorem readWord_eq_some_iff (text : List Char) (word : UInt32) :
    readWord? text = some word ↔ withoutPlus text ≠ [] ∧
      (∀ c ∈ withoutPlus text, Decimal.isDigit c = true) ∧
      Decimal.digitsValue (withoutPlus text) = word.toNat := by
  rw [readWord_eq]
  constructor
  · intro read
    split at read
    next proper =>
      obtain ⟨some_digit, each, small⟩ := proper
      refine ⟨some_digit, List.all_eq_true.mp each, ?_⟩
      rw [← Option.some.inj read, UInt32.toNat_ofNat_of_lt' small]
    next => cases read
  · rintro ⟨some_digit, each, value⟩
    have small : Decimal.digitsValue (withoutPlus text) < UInt32.size := by
      rw [value]
      exact word.toNat_lt
    rw [if_pos ⟨some_digit, List.all_eq_true.mpr each, small⟩, value, UInt32.ofNat_toNat]

theorem readWord_toDigits (number : UInt32) :
    readWord? (Nat.toDigits 10 number.toNat) = some number := by
  have each : ∀ c ∈ Nat.toDigits 10 number.toNat, Decimal.isDigit c = true :=
    fun c => isDigit_of_mem_toDigits
  rw [readWord_eq_some_iff, withoutPlus_digits each]
  exact ⟨Nat.toDigits_ne_nil, each, digitsValue_toDigits number.toNat⟩

def written (number : UInt32) : String :=
  String.ofList (Nat.toDigits 10 number.toNat)

theorem written_ne_empty (number : UInt32) : written number ≠ "" := by
  intro empty
  have digits : (written number).toList = [] := by rw [empty, String.toList_empty]
  rw [written, String.toList_ofList] at digits
  exact Nat.toDigits_ne_nil digits

/-- A positive number of 32 bits is read back from its decimal. -/
theorem readPositive_written {number : UInt32} (positive : number ≠ 0) (default : UInt32) :
    readPositive (present (some (written number))) default = number := by
  have solid : ∀ c ∈ Nat.toDigits 10 number.toNat, Text.isBlank c = false :=
    fun c member => isBlank_of_isDigit (isDigit_of_mem_toDigits member)
  have given : present (some (written number)) = some (written number) := by
    simp [present, Option.filter_some, written_ne_empty]
  rw [given]
  simp only [readPositive, Option.bind_some, written, String.toList_ofList,
    trim_of_not_blank solid, readWord_toDigits, positive, if_false]

end ProductCatalog.Query
