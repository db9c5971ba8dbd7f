import Mathlib.Data.List.Basic
import Mathlib.Tactic.SplitIfs
import ProductCatalog.Text.Utf8

/-! Texts that were written as bytes are read back as they were, character by character. -/

namespace ProductCatalog.Text.Utf8

theorem toNat_byte (code : Nat) (small : code < 256) : (UInt8.ofNat code).toNat = code := by
  rw [UInt8.toNat_ofNat']
  exact Nat.mod_eq_of_lt small

/-- A byte that may stand behind the first one of a sequence, with the bits that it carries. -/
structure IsLater (byte : UInt8) (bits : Nat) : Prop where
  least : 0x80 ≤ byte
  greatest : byte ≤ 0xBF
  bits : byte.toNat % 64 = bits

theorem isLater (code : Nat) : IsLater (UInt8.ofNat (code % 64 + 128)) (code % 64) := by
  have value := toNat_byte (code % 64 + 128) (by omega)
  constructor
  · rw [UInt8.le_iff_toNat_le, value]
    exact Nat.le_add_left _ _
  · rw [UInt8.le_iff_toNat_le, value]
    change _ ≤ 191
    omega
  · rw [value]
    omega

theorem tail_cons {byte : UInt8} {bits : Nat} (later : IsLater byte bits) (payload more : Nat)
    (bytes : List UInt8) :
    tail payload (more + 1) (byte :: bytes) = tail (payload * 64 + bits) more bytes := by
  rw [tail, if_pos ⟨later.least, later.greatest⟩, later.bits]

/-- What a first byte announces that stands for `code` with `more` bytes behind the second one. -/
structure Announces (first second : UInt8) (payload more : Nat) : Prop where
  multiple : ¬first < 0x80
  found : ∃ least greatest, lead? first = some ⟨payload, least, greatest, more⟩ ∧
    least ≤ second ∧ second ≤ greatest

theorem step_announced {first second : UInt8} {payload more bits : Nat}
    (announced : Announces first second payload more) (later : IsLater second bits)
    (bytes : List UInt8) :
    step first (second :: bytes) = tail (payload * 64 + bits) more bytes := by
  obtain ⟨multiple, least, greatest, found, within⟩ := announced
  rw [step, if_neg multiple, found]
  dsimp only
  rw [if_pos within, later.bits]

theorem announces_two (code : Nat) (least : 0x80 ≤ code) (greatest : code < 0x800)
    {second : UInt8} {bits : Nat} (later : IsLater second bits) :
    Announces (UInt8.ofNat (code / 64 % 32 + 192)) second (code / 64) 0 := by
  have value := toNat_byte (code / 64 % 32 + 192) (by omega)
  constructor
  · rw [UInt8.lt_iff_toNat_lt, value]
    change ¬_ < 128
    omega
  · refine ⟨0x80, 0xBF, ?_, later.least, later.greatest⟩
    simp only [lead?, UInt8.lt_iff_toNat_lt, ← UInt8.toNat_inj, value, UInt8.toNat_ofNat,
      Nat.reducePow, Nat.reduceMod]
    split_ifs <;> first | omega | (congr 2; omega)

theorem announces_three (code : Nat) (least : 0x800 ≤ code) (greatest : code < 0x10000)
    (scalar : code < 0xD800 ∨ 0xDFFF < code) :
    Announces (UInt8.ofNat (code / 4096 % 16 + 224)) (UInt8.ofNat (code / 64 % 64 + 128))
      (code / 4096) 1 := by
  have first := toNat_byte (code / 4096 % 16 + 224) (by omega)
  have second := toNat_byte (code / 64 % 64 + 128) (by omega)
  constructor
  · rw [UInt8.lt_iff_toNat_lt, first]
    change ¬_ < 128
    omega
  · refine ⟨if code / 4096 = 0 then 0xA0 else 0x80, if code / 4096 = 13 then 0x9F else 0xBF, ?_⟩
    simp only [lead?, UInt8.lt_iff_toNat_lt, UInt8.le_iff_toNat_le, ← UInt8.toNat_inj, first,
      second, apply_ite UInt8.toNat, UInt8.toNat_ofNat, Nat.reducePow, Nat.reduceMod]
    split_ifs <;> first | omega | exact ⟨by congr 2; omega, by omega⟩

theorem announces_four (code : Nat) (least : 0x10000 ≤ code) (greatest : code < 0x110000) :
    Announces (UInt8.ofNat (code / 262144 % 8 + 240)) (UInt8.ofNat (code / 4096 % 64 + 128))
      (code / 262144) 2 := by
  have first := toNat_byte (code / 262144 % 8 + 240) (by omega)
  have second := toNat_byte (code / 4096 % 64 + 128) (by omega)
  constructor
  · rw [UInt8.lt_iff_toNat_lt, first]
    change ¬_ < 128
    omega
  · refine ⟨if code / 262144 = 0 then 0x90 else 0x80, if code / 262144 = 4 then 0x8F else 0xBF, ?_⟩
    simp only [lead?, UInt8.lt_iff_toNat_lt, UInt8.le_iff_toNat_le, ← UInt8.toNat_inj, first,
      second, apply_ite UInt8.toNat, UInt8.toNat_ofNat, Nat.reducePow, Nat.reduceMod]
    split_ifs <;> first | omega | exact ⟨by congr 2; omega, by omega⟩

/-- Reading begins with the bytes of a character and gives the character and what stands behind it.
-/
theorem step_utf8EncodeChar (c : Char) (rest : List UInt8) :
    ∃ first others, String.utf8EncodeChar c ++ rest = first :: others ∧
      step first others = (some c, rest) := by
  have scalar : c.val.toNat < 0xD800 ∨ 0xDFFF < c.val.toNat ∧ c.val.toNat < 0x110000 := c.valid
  have same : Char.ofNat c.val.toNat = c := Char.ofNat_toNat c
  simp only [String.utf8EncodeChar]
  generalize c.val.toNat = code at scalar same
  by_cases one : code ≤ 127
  · have value := toNat_byte code (by omega)
    have small : UInt8.ofNat code < 0x80 := by
      rw [UInt8.lt_iff_toNat_lt, value]
      change _ < 128
      omega
    rw [if_pos one]
    refine ⟨_, _, rfl, ?_⟩
    rw [step, if_pos small, value, same]
    rfl
  rw [if_neg one]
  by_cases two : code ≤ 2047
  · rw [if_pos two]
    refine ⟨_, _, rfl, ?_⟩
    have announced := announces_two code (by omega) (by omega) (isLater code)
    have bits : code / 64 * 64 + code % 64 = code := by omega
    refine (step_announced announced (isLater code) rest).trans ?_
    rw [bits, tail, same]
  rw [if_neg two]
  by_cases three : code ≤ 65535
  · simp only [if_pos three, List.cons_append, List.nil_append]
    refine ⟨_, _, rfl, ?_⟩
    have announced := announces_three code (by omega) (by omega) (by omega)
    have bits : (code / 4096 * 64 + code / 64 % 64) * 64 + code % 64 = code := by omega
    rw [step_announced announced (isLater (code / 64)), tail_cons (isLater code), bits, tail, same]
  · simp only [if_neg three, List.cons_append, List.nil_append]
    refine ⟨_, _, rfl, ?_⟩
    have announced := announces_four code (by omega) (by omega)
    have bits : ((code / 262144 * 64 + code / 4096 % 64) * 64 + code / 64 % 64) * 64 + code % 64 =
        code := by
      omega
    rw [step_announced announced (isLater (code / 4096)), tail_cons (isLater (code / 64)),
      tail_cons (isLater code), bits, tail, same]

theorem steps_encode (text : List Char) : steps (encode text) = text.map some := by
  induction text with
  | nil => rw [encode, List.flatMap_nil, steps, List.map_nil]
  | cons c rest ih =>
      obtain ⟨first, others, written, read⟩ := step_utf8EncodeChar c (encode rest)
      have bytes : encode (c :: rest) = first :: others := by
        rw [encode, List.flatMap_cons, ← written]
        rfl
      rw [bytes, steps, read, ih, List.map_cons]

/-- A text that was written as bytes is read back as it was. -/
theorem decodeLossy_encode (text : List Char) : decodeLossy (encode text) = text := by
  rw [decodeLossy, steps_encode, List.map_map]
  exact List.map_id text

end ProductCatalog.Text.Utf8
