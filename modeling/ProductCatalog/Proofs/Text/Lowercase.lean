import Mathlib.Data.List.Basic
import ProductCatalog.Text.Lowercase

/-! What lowercase texts are made of. No capital ASCII letter is left in them, so that comparing
them without regard to ASCII case is comparing them. What stands before the capital letters, such
as U+0000, comes from nothing but itself, and so do the specials at the end of the basic plane. -/

namespace ProductCatalog.Text

/-- The letters of a range are characters, and come after the capital ASCII letters. -/
def CaseRange.IsProper (range : CaseRange) : Prop :=
  let greatest := range.lower + (range.last - range.first)
  'Z'.toNat < range.lower ∧ (greatest < 0xD800 ∨ 0xDFFF < range.lower ∧ greatest < 0x110000)

instance (range : CaseRange) : Decidable range.IsProper :=
  inferInstanceAs (Decidable (_ ∧ (_ ∨ _)))

theorem lowercaseRanges_proper : ∀ range ∈ lowercaseRanges, range.IsProper := by
  decide +kernel

theorem CaseRange.IsProper.letter {range : CaseRange} (proper : range.IsProper) {code : Nat}
    (contained : range.contains code) :
    'Z'.toNat < range.lower + (code - range.first) ∧
      (range.lower + (code - range.first)).isValidChar := by
  obtain ⟨above, valid⟩ := proper
  simp only [CaseRange.contains, Bool.and_eq_true, decide_eq_true_eq] at contained
  have within : code - range.first ≤ range.last - range.first := by omega
  refine ⟨by omega, ?_⟩
  unfold Nat.isValidChar
  omega

theorem lowercaseCode_cases (code : Nat) :
    lowercaseCode code = code ∨ ∃ range ∈ lowercaseRanges, range.contains code = true ∧
      lowercaseCode code = range.lower + (code - range.first) := by
  unfold lowercaseCode
  cases found : lowercaseRanges.find? (·.contains code) with
  | none => exact Or.inl rfl
  | some range =>
      have contained : range.contains code = true := by
        simpa using List.find?_some found
      exact Or.inr ⟨range, List.mem_of_find?_eq_some found, contained, rfl⟩

theorem lowercaseCode_bounds (c : Char) (beyond : 0x80 ≤ c.toNat) :
    'Z'.toNat < lowercaseCode c.toNat ∧ (lowercaseCode c.toNat).isValidChar := by
  rcases lowercaseCode_cases c.toNat with same | ⟨range, member, contained, letter⟩
  · rw [same]
    have letter : 90 < c.toNat := by omega
    exact ⟨letter, c.valid⟩
  · rw [letter]
    exact (lowercaseRanges_proper range member).letter contained

theorem toNat_ofNat {code : Nat} (valid : code.isValidChar) : (Char.ofNat code).toNat = code := by
  rw [Char.ofNat, dif_pos valid]
  rfl

theorem toLower_of_apart {c : Char} (apart : 'Z' < c ∨ c < 'A') : c.toLower = c := by
  unfold Char.toLower
  rw [dif_neg]
  rintro ⟨above, below⟩
  rcases apart with after | before
  · exact absurd after (UInt32.not_lt.mpr below)
  · exact absurd before (UInt32.not_lt.mpr above)

theorem toNat_toLower (c : Char) :
    c.toLower.toNat = if 65 ≤ c.toNat ∧ c.toNat ≤ 90 then c.toNat + 32 else c.toNat := by
  unfold Char.toLower
  by_cases capital : c.val ≥ 'A'.val ∧ c.val ≤ 'Z'.val
  · have within : 65 ≤ c.toNat ∧ c.toNat ≤ 90 := capital
    rw [if_pos within, dif_pos capital]
    change (c.val + 32).toNat = c.val.toNat + 32
    rw [UInt32.toNat_add]
    change (c.toNat + 32) % 2 ^ 32 = c.toNat + 32
    omega
  · have outside : ¬(65 ≤ c.toNat ∧ c.toNat ≤ 90) := capital
    rw [if_neg outside, dif_neg capital]

theorem toLower_apart (c : Char) : 'Z' < c.toLower ∨ c.toLower = c ∧ c < 'A' := by
  by_cases before : c < 'A'
  · exact Or.inr ⟨toLower_of_apart (Or.inr before), before⟩
  · left
    have above : 65 ≤ c.toNat := UInt32.not_lt.mp before
    have code := toNat_toLower c
    change 90 < c.toLower.toNat
    split at code <;> omega

theorem mem_lowercaseChar_cases {c lower : Char} (member : lower ∈ lowercaseChar c) :
    c.toNat < 0x80 ∧ lower = c.toLower ∨ (lower = 'i' ∨ lower = '\u0307') ∨
      0x80 ≤ c.toNat ∧ lower.toNat = lowercaseCode c.toNat := by
  unfold lowercaseChar at member
  split at member
  · rename_i ascii
    exact Or.inl ⟨ascii, List.mem_singleton.mp member⟩
  · rename_i beyond
    right
    split at member
    · exact Or.inl (by simpa using member)
    · have above : 0x80 ≤ c.toNat := Nat.not_lt.mp beyond
      rw [List.mem_singleton.mp member, toNat_ofNat (lowercaseCode_bounds c above).2]
      exact Or.inr ⟨above, rfl⟩

theorem mem_lowercaseChar {c lower : Char} (member : lower ∈ lowercaseChar c) :
    'Z' < lower ∨ lower = c ∧ lower < 'A' := by
  rcases mem_lowercaseChar_cases member with ⟨_, rfl⟩ | (rfl | rfl) | ⟨beyond, code⟩
  · rcases toLower_apart c with after | ⟨same, before⟩
    · exact Or.inl after
    · exact Or.inr ⟨same, same.symm ▸ before⟩
  · exact Or.inl (by decide)
  · exact Or.inl (by decide)
  · left
    change 'Z'.toNat < lower.toNat
    rw [code]
    exact (lowercaseCode_bounds c beyond).1

theorem mem_lowercaseAfter_cases {lower : Char} {before text : List Char}
    (member : lower ∈ lowercaseAfter before text) :
    (lower = 'σ' ∨ lower = 'ς') ∨ ∃ c ∈ text, lower ∈ lowercaseChar c := by
  induction text generalizing before with
  | nil => simp [lowercaseAfter] at member
  | cons c rest ih =>
      have later (found : lower ∈ lowercaseAfter (c :: before) rest) :
          (lower = 'σ' ∨ lower = 'ς') ∨ ∃ d ∈ c :: rest, lower ∈ lowercaseChar d := by
        rcases ih found with sigma | ⟨d, among, letter⟩
        · exact Or.inl sigma
        · exact Or.inr ⟨d, List.mem_cons_of_mem c among, letter⟩
      unfold lowercaseAfter at member
      split at member
      · rcases List.mem_cons.mp member with rfl | found
        · left
          unfold lowercaseSigma
          split <;> simp
        · exact later found
      · rcases List.mem_append.mp member with first | found
        · exact Or.inr ⟨c, List.mem_cons_self, first⟩
        · exact later found

/-- A character of a lowercase text comes after the capital ASCII letters, or before them and from
the text itself. -/
theorem mem_lowercaseAfter {lower : Char} {before text : List Char}
    (member : lower ∈ lowercaseAfter before text) :
    'Z' < lower ∨ lower ∈ text ∧ lower < 'A' := by
  rcases mem_lowercaseAfter_cases member with (rfl | rfl) | ⟨c, among, first⟩
  · exact Or.inl (by decide)
  · exact Or.inl (by decide)
  · rcases mem_lowercaseChar first with after | ⟨rfl, smaller⟩
    · exact Or.inl after
    · exact Or.inr ⟨among, smaller⟩

/-- Lowercase texts have no capital ASCII letters. -/
theorem toLower_of_mem_lowercase {lower : Char} {text : List Char}
    (member : lower ∈ lowercase text) : lower.toLower = lower :=
  toLower_of_apart ((mem_lowercaseAfter member).imp_right And.right)

theorem zero_mem_lowercaseAfter {text : List Char} (member : '\u0000' ∈ text)
    (before : List Char) : '\u0000' ∈ lowercaseAfter before text := by
  induction text generalizing before with
  | nil => simp at member
  | cons c rest ih =>
      rcases List.mem_cons.mp member with rfl | later
      · exact List.mem_cons_self
      · have found := ih later (c :: before)
        unfold lowercaseAfter
        split
        · exact List.mem_cons_of_mem _ found
        · exact List.mem_append_right _ found

theorem zero_mem_lowercase_iff (text : List Char) :
    '\u0000' ∈ lowercase text ↔ '\u0000' ∈ text := by
  constructor
  · intro member
    rcases mem_lowercaseAfter member with after | ⟨belongs, _⟩
    · exact absurd after (by decide)
    · exact belongs
  · intro member
    exact zero_mem_lowercaseAfter member []

/-- One of the last characters of the basic plane. None of them has a case. -/
def IsSpecial (c : Char) : Prop :=
  0xFFF0 ≤ c.toNat ∧ c.toNat ≤ 0xFFFF

theorem lowercaseRanges_not_special : ∀ range ∈ lowercaseRanges,
    range.lower + (range.last - range.first) < 0xFFF0 ∨ 0xFFFF < range.lower := by
  decide +kernel

theorem eq_of_mem_lowercaseChar {c lower : Char} (special : IsSpecial lower)
    (member : lower ∈ lowercaseChar c) : lower = c := by
  obtain ⟨above, below⟩ := special
  rcases mem_lowercaseChar_cases member with ⟨ascii, rfl⟩ | (rfl | rfl) | ⟨_, code⟩
  · have letter := toNat_toLower c
    split at letter <;> omega
  · exact absurd above (by decide)
  · exact absurd above (by decide)
  · rcases lowercaseCode_cases c.toNat with same | ⟨range, among, contained, letter⟩
    · exact Char.toNat_inj.mp (code.trans same)
    · have apart := lowercaseRanges_not_special range among
      simp only [CaseRange.contains, Bool.and_eq_true, decide_eq_true_eq] at contained
      omega

/-- The specials of a lowercase text come from the text itself. -/
theorem mem_of_mem_lowercase {special : Char} (isSpecial : IsSpecial special) {text : List Char}
    (member : special ∈ lowercase text) : special ∈ text := by
  rcases mem_lowercaseAfter_cases member with (rfl | rfl) | ⟨c, among, letter⟩
  · exact absurd isSpecial.1 (by decide)
  · exact absurd isSpecial.1 (by decide)
  · rw [eq_of_mem_lowercaseChar isSpecial letter]
    exact among

end ProductCatalog.Text
