/-! Texts as bytes. Reading is done in steps: a well formed sequence gives its character, and an
ill formed one is left behind up to the first byte that cannot belong to it. -/

namespace ProductCatalog.Text.Utf8

def encode (text : List Char) : List UInt8 :=
  text.flatMap String.utf8EncodeChar

/-- What may follow a leading byte: the least and greatest second byte, and how many more there are.
-/
structure Lead where
  payload : Nat
  least : UInt8
  greatest : UInt8
  more : Nat

/-- The second byte of some sequences is bounded more closely than the later ones, which keeps out
overlong forms, surrogates and numbers beyond the last code point. -/
def lead? (byte : UInt8) : Option Lead :=
  let payload (count : Nat) := byte.toNat % count
  if byte < 0xC2 then none
  else if byte < 0xE0 then some ⟨payload 32, 0x80, 0xBF, 0⟩
  else if byte = 0xE0 then some ⟨payload 16, 0xA0, 0xBF, 1⟩
  else if byte = 0xED then some ⟨payload 16, 0x80, 0x9F, 1⟩
  else if byte < 0xF0 then some ⟨payload 16, 0x80, 0xBF, 1⟩
  else if byte = 0xF0 then some ⟨payload 8, 0x90, 0xBF, 2⟩
  else if byte < 0xF4 then some ⟨payload 8, 0x80, 0xBF, 2⟩
  else if byte = 0xF4 then some ⟨payload 8, 0x80, 0x8F, 2⟩
  else none

/-- Reads `more` further bytes of a sequence; `none` at the first that is not one. -/
def tail (payload : Nat) : Nat → List UInt8 → Option Char × List UInt8
  | 0, bytes => (some (Char.ofNat payload), bytes)
  | _ + 1, [] => (none, [])
  | more + 1, byte :: bytes =>
    if 0x80 ≤ byte ∧ byte ≤ 0xBF then tail (payload * 64 + byte.toNat % 64) more bytes
    else (none, byte :: bytes)

/-- The character that `byte` begins and the bytes after it, or `none` and the bytes after the part
that is left behind. -/
def step (byte : UInt8) (bytes : List UInt8) : Option Char × List UInt8 :=
  if byte < 0x80 then (some (Char.ofNat byte.toNat), bytes)
  else
    match lead? byte with
    | none => (none, bytes)
    | some found =>
      match bytes with
      | [] => (none, [])
      | next :: rest =>
        if found.least ≤ next ∧ next ≤ found.greatest then
          tail (found.payload * 64 + next.toNat % 64) found.more rest
        else (none, next :: rest)

theorem length_tail (payload more : Nat) (bytes : List UInt8) :
    (tail payload more bytes).2.length ≤ bytes.length := by
  induction more generalizing payload bytes with
  | zero => simp [tail]
  | succ more ih =>
    cases bytes with
    | nil => simp [tail]
    | cons byte bytes =>
      rw [tail]
      split
      · exact Nat.le_succ_of_le (ih _ _)
      · simp

theorem length_step (byte : UInt8) (bytes : List UInt8) :
    (step byte bytes).2.length ≤ bytes.length := by
  simp only [step]
  split
  · simp
  · cases lead? byte with
    | none => simp
    | some found =>
      cases bytes with
      | nil => simp
      | cons next rest =>
        simp only
        split
        · exact Nat.le_succ_of_le (length_tail _ _ _)
        · simp

/-- The characters of a byte sequence in order, `none` for each part that is left behind. -/
def steps : List UInt8 → List (Option Char)
  | [] => []
  | byte :: bytes =>
    (step byte bytes).1 :: steps (step byte bytes).2
termination_by bytes => bytes.length
decreasing_by exact Nat.lt_succ_of_le (length_step byte bytes)

def decode? (bytes : List UInt8) : Option (List Char) :=
  (steps bytes).mapM id

/-- The text of any sequence, with a replacement character for each ill formed part. -/
def decodeLossy (bytes : List UInt8) : List Char :=
  (steps bytes).map (·.getD '\uFFFD')

end ProductCatalog.Text.Utf8
