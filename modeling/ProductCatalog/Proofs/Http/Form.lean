import Mathlib.Tactic.IntervalCases
import ProductCatalog.Http.Request
import ProductCatalog.Proofs.Text.Utf8

/-! Pairs that were written as a query are read back as they were, in order and with repetitions. -/

namespace ProductCatalog.Http

namespace Form

theorem hexadecimalDigit_cases (value : Nat) (small : value < 16) :
    hexadecimalValue? (hexadecimalDigit value) = some value ∧
      isPlain (hexadecimalDigit value) = true := by
  interval_cases value <;> decide

theorem toBytes_encodeByte (byte : UInt8) (rest : List Char) :
    toBytes (encodeByte byte ++ rest) = byte :: toBytes rest := by
  have size := byte.toNat_lt
  have high := (hexadecimalDigit_cases (byte.toNat / 16) (by omega)).1
  have low := (hexadecimalDigit_cases (byte.toNat % 16) (by omega)).1
  have whole : UInt8.ofNat (16 * (byte.toNat / 16) + byte.toNat % 16) = byte := by
    rw [Nat.div_add_mod, UInt8.ofNat_toNat]
  simp only [encodeByte, List.cons_append, List.nil_append]
  rw [toBytes, byte?, high, low]
  simp only [whole]

theorem toBytes_encodeBytes (bytes : List UInt8) (rest : List Char) :
    toBytes (bytes.flatMap encodeByte ++ rest) = bytes ++ toBytes rest := by
  induction bytes with
  | nil => rfl
  | cons byte bytes ih =>
      rw [List.flatMap_cons, List.append_assoc, toBytes_encodeByte, ih, List.cons_append]

theorem toBytes_other {c : Char} (no_percent : c ≠ '%') (no_plus : c ≠ '+') (rest : List Char) :
    toBytes (c :: rest) = String.utf8EncodeChar c ++ toBytes rest := by
  rw [toBytes]
  · intro high low others same
    exact absurd same no_percent
  · intro same
    exact absurd same no_plus

theorem toBytes_encodeChar (c : Char) (rest : List Char) :
    toBytes (encodeChar c ++ rest) = String.utf8EncodeChar c ++ toBytes rest := by
  rw [encodeChar]
  split
  · rename_i plain
    have no_percent : c ≠ '%' := by
      rintro rfl
      exact absurd plain (by decide)
    have no_plus : c ≠ '+' := by
      rintro rfl
      exact absurd plain (by decide)
    exact toBytes_other no_percent no_plus rest
  · split
    · rename_i space
      rw [space]
      rfl
    · exact toBytes_encodeBytes _ rest

theorem toBytes_encodePart (text : String) :
    toBytes (encodePart text) = Text.Utf8.encode text.toList := by
  rw [encodePart, Text.Utf8.encode]
  induction text.toList with
  | nil => rfl
  | cons c rest ih => rw [List.flatMap_cons, toBytes_encodeChar, ih, List.flatMap_cons]

theorem decodePart_encodePart (text : String) : decodePart (encodePart text) = text := by
  rw [decodePart, toBytes_encodePart, Text.Utf8.decodeLossy_encode, String.ofList_toList]

/-- The characters that written keys and values are made of. -/
def isWritten (c : Char) : Bool :=
  isPlain c || c == '%' || c == '+'

theorem isWritten_of_mem_encodePart {text : String} {c : Char} (member : c ∈ encodePart text) :
    isWritten c = true := by
  obtain ⟨source, -, member⟩ := List.mem_flatMap.mp member
  rw [encodeChar] at member
  split at member
  · rename_i plain
    rw [List.mem_singleton.mp member, isWritten, plain]
    rfl
  · split at member
    · rw [List.mem_singleton.mp member]
      decide
    · obtain ⟨byte, -, member⟩ := List.mem_flatMap.mp member
      have size := byte.toNat_lt
      have high := (hexadecimalDigit_cases (byte.toNat / 16) (by omega)).2
      have low := (hexadecimalDigit_cases (byte.toNat % 16) (by omega)).2
      simp only [encodeByte, List.mem_cons, List.not_mem_nil, or_false] at member
      rcases member with rfl | rfl | rfl
      · decide
      · rw [isWritten, high]
        rfl
      · rw [isWritten, low]
        rfl

theorem not_mem_encodePart {c : Char} (apart : isWritten c = false) (text : String) :
    c ∉ encodePart text := fun member =>
  absurd (isWritten_of_mem_encodePart member) (Bool.not_eq_true _ ▸ apart)

theorem decodePair_encodePair (pair : String × String) : decodePair (encodePair pair) = pair := by
  have key : ∀ c ∈ encodePart pair.1, decide (c ≠ '=') = true := by
    intro c member
    rw [decide_eq_true_eq]
    rintro rfl
    exact not_mem_encodePart (by decide) _ member
  rw [decodePair, encodePair, List.takeWhile_append_of_pos key, List.dropWhile_append_of_pos key]
  simp [decodePart_encodePart]

theorem of_mem_encodePair {pair : String × String} {c : Char} (member : c ∈ encodePair pair) :
    isWritten c = true ∨ c = '=' := by
  rcases List.mem_append.mp member with member | member
  · exact .inl (isWritten_of_mem_encodePart member)
  · rcases List.mem_cons.mp member with same | member
    · exact .inr same
    · exact .inl (isWritten_of_mem_encodePart member)

theorem not_mem_encodePair (pair : String × String) : '&' ∉ encodePair pair := fun member =>
  absurd (of_mem_encodePair member) (by decide)

/-- Pairs are read back as they were written. -/
theorem decode_encode (pairs : List (String × String)) : decode (encode pairs) = pairs := by
  cases pairs with
  | nil => rfl
  | cons pair others =>
      have apart : ∀ piece ∈ (pair :: others).map encodePair, '&' ∉ piece := by
        intro piece member
        obtain ⟨source, -, rfl⟩ := List.mem_map.mp member
        exact not_mem_encodePair source
      have filled : ∀ piece ∈ (pair :: others).map encodePair, decide (piece ≠ []) = true := by
        intro piece member
        obtain ⟨source, -, rfl⟩ := List.mem_map.mp member
        simp [encodePair]
      rw [decode, encode, List.splitOn_intercalate '&' apart (by simp),
        List.filter_eq_self.mpr filled, List.map_map]
      exact (List.map_congr_left fun pair _ => decodePair_encodePair pair).trans (List.map_id _)

theorem of_mem_encode {pairs : List (String × String)} {c : Char} (member : c ∈ encode pairs) :
    (isWritten c = true ∨ c = '=') ∨ c = '&' := by
  induction pairs with
  | nil => cases member
  | cons pair others ih =>
      cases others with
      | nil =>
          rw [encode, List.map_singleton, List.intercalate_singleton] at member
          exact .inl (of_mem_encodePair member)
      | cons next others =>
          rw [encode, List.map_cons, List.map_cons, List.intercalate_cons_cons] at member
          rcases List.mem_append.mp member with member | member
          · rcases List.mem_append.mp member with member | member
            · exact .inl (of_mem_encodePair member)
            · exact .inr (List.mem_singleton.mp member)
          · exact ih member

end Form

end ProductCatalog.Http
