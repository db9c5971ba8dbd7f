import Mathlib.Data.List.Basic
import Mathlib.Tactic.IntervalCases
import ProductCatalog.Json.Token
import ProductCatalog.Json.Value

/-! Texts between quotes: what was escaped on the way out is joined again on the way in. -/

namespace ProductCatalog.Json

theorem scanText_quote (rest : List Char) : scanText ('"' :: rest) = ⟨[], .ok rest⟩ := by
  rw [scanText.eq_def]
  rfl

theorem scanText_plain {c : Char} (no_quote : c ≠ '"') (no_backslash : c ≠ '\\')
    (rest : List Char) :
    scanText (c :: rest) = .ofPart (plainPart c) (scanText rest) := by
  rw [scanText.eq_def]
  simp only [if_neg no_quote, if_neg no_backslash]

theorem scanText_letter {letter : Char} (no_code : letter ≠ 'u') (rest : List Char) :
    scanText ('\\' :: letter :: rest) = .ofPart (escapedPart letter) (scanText rest) := by
  rw [scanText.eq_def]
  simp only [if_neg no_code]
  rfl

theorem scanText_code (first second third fourth : Char) (rest : List Char) :
    scanText ('\\' :: 'u' :: first :: second :: third :: fourth :: rest) =
      .ofPart (unitPart [first, second, third, fourth]) (scanText rest) := by
  rw [scanText.eq_def]
  rfl

/-- The part that a character is read back as. Control characters without a letter of their own
come back by their code. -/
def writtenPart (c : Char) : TextPart :=
  if escapeLetter? c = none ∧ c.toNat < 0x20 then .unit c.toNat else .char c

theorem escapedPart_of_letter {c letter : Char} (short : escapeLetter? c = some letter) :
    letter ≠ 'u' ∧ escapedPart letter = .ok (.char c) := by
  unfold escapeLetter? at short
  split at short <;> cases short <;> decide

theorem unitPart_of_code : ∀ code < 0x20,
    ∃ first second third fourth, hexadecimalCode code = [first, second, third, fourth] ∧
      unitPart [first, second, third, fourth] = .ok (.unit code) := by
  intro code small
  interval_cases code <;> exact ⟨_, _, _, _, rfl, rfl⟩

theorem scanText_escapeChar (c : Char) (rest : List Char) :
    scanText (escapeChar c ++ rest) = (scanText rest).prepend (writtenPart c) := by
  rw [escapeChar, writtenPart]
  cases short : escapeLetter? c with
  | some letter =>
      obtain ⟨no_code, part⟩ := escapedPart_of_letter short
      simp only [List.cons_append, List.nil_append, reduceCtorEq, false_and, if_false]
      rw [scanText_letter no_code, part]
      rfl
  | none =>
      by_cases control : c.toNat < 0x20
      · obtain ⟨first, second, third, fourth, code, part⟩ := unitPart_of_code c.toNat control
        simp only [control, and_self, if_true, code, List.cons_append, List.nil_append]
        rw [scanText_code, part]
        rfl
      · have no_quote : c ≠ '"' := by
          rintro rfl
          cases short
        have no_backslash : c ≠ '\\' := by
          rintro rfl
          cases short
        simp only [control, and_false, if_false, List.singleton_append]
        rw [scanText_plain no_quote no_backslash, plainPart, if_neg control]
        rfl

theorem scanText_written (text rest : List Char) :
    scanText (text.flatMap escapeChar ++ '"' :: rest) = ⟨text.map writtenPart, .ok rest⟩ := by
  induction text with
  | nil => exact scanText_quote rest
  | cons c text ih =>
      rw [List.flatMap_cons, List.append_assoc, scanText_escapeChar, ih]
      rfl

theorem readTextToken_written (text rest : List Char) :
    readTextToken (text.flatMap escapeChar ++ '"' :: rest) =
      (.text (text.map writtenPart), rest) := by
  rw [readTextToken, scanText_written]

theorem joinParts_written (text : List Char) :
    joinParts none (text.map writtenPart) = .ok text := by
  induction text with
  | nil => rfl
  | cons c text ih =>
      rw [List.map_cons, writtenPart]
      split
      · rename_i control
        have no_leading : isLeading c.toNat = false := by
          simp only [isLeading, Bool.and_eq_false_iff, decide_eq_false_iff_not]
          omega
        have no_trailing : isTrailing c.toNat = false := by
          simp only [isTrailing, Bool.and_eq_false_iff, decide_eq_false_iff_not]
          omega
        rw [joinParts.eq_def]
        simp only [no_leading, no_trailing, Bool.false_eq_true, if_false, ih, Except.map,
          Char.ofNat_toNat]
      · rw [joinParts, ih]
        rfl

/-- A text that was written is read back as it was. -/
theorem decodeParts_written (text : String) :
    decodeParts (text.toList.map writtenPart) = .ok text := by
  rw [decodeParts, joinParts_written]
  exact congrArg Except.ok String.ofList_toList

end ProductCatalog.Json
