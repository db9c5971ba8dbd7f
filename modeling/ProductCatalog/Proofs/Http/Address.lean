import Mathlib.Data.List.Basic
import ProductCatalog.Http.Address

/-! The characters that addresses are written with. An address of four octets has no colon, and an
address of groups always has one, so that no text is both. -/

namespace ProductCatalog.Http

open Decimal (isDigit)

theorem mem_piece_of_mem (separator : Char) {c : Char} {text : List Char} (member : c ∈ text) :
    c = separator ∨ ∃ piece ∈ text.splitOn separator, c ∈ piece := by
  rw [← @List.intercalate_splitOn _ text _ _ separator] at member
  generalize text.splitOn separator = pieces at member ⊢
  induction pieces with
  | nil => cases member
  | cons first rest ih =>
      rcases rest with _ | ⟨second, others⟩
      · exact Or.inr ⟨first, List.mem_cons_self, by simpa using member⟩
      · rw [List.intercalate_cons_cons, List.mem_append, List.mem_append, List.mem_singleton]
          at member
        rcases member with (within | same) | later
        · exact Or.inr ⟨first, List.mem_cons_self, within⟩
        · exact Or.inl same
        · rcases ih later with same | ⟨piece, among, within⟩
          · exact Or.inl same
          · exact Or.inr ⟨piece, List.mem_cons_of_mem _ among, within⟩

/-- The characters of addresses. -/
def IsAddressChar (c : Char) : Prop :=
  isHexadecimal c = true ∨ c = ':' ∨ c = '.'

theorem isDigit_of_isOctet {octet : List Char} (legal : isOctet octet = true) :
    ∀ c ∈ octet, isDigit c = true := by
  simp only [isOctet, Bool.and_eq_true, List.all_eq_true] at legal
  exact legal.1.1.1.2

theorem isHexadecimal_of_isGroup {group : List Char} (legal : isGroup group = true) :
    ∀ c ∈ group, isHexadecimal c = true := by
  simp only [isGroup, Bool.and_eq_true, List.all_eq_true] at legal
  exact legal.2

theorem isAddress4_chars {text : List Char} (address : isAddress4 text = true) :
    ∀ c ∈ text, isDigit c = true ∨ c = '.' := by
  simp only [isAddress4, Bool.and_eq_true, List.all_eq_true] at address
  intro c member
  rcases mem_piece_of_mem '.' member with point | ⟨octet, among, within⟩
  · exact Or.inr point
  · exact Or.inl (isDigit_of_isOctet (address.2 octet among) c within)

theorem isAddressChar_of_isAddress4 {text : List Char} (address : isAddress4 text = true) :
    ∀ c ∈ text, IsAddressChar c := by
  intro c member
  rcases isAddress4_chars address c member with digit | point
  · exact Or.inl (by simp [isHexadecimal, digit])
  · exact Or.inr (Or.inr point)

theorem colon_not_mem_address4 {text : List Char} (address : isAddress4 text = true) :
    ':' ∉ text := by
  intro member
  rcases isAddress4_chars address ':' member with digit | point
  · exact absurd digit (by decide)
  · exact absurd point (by decide)

theorem countGroups_chars {text : List Char} {count : Nat}
    (counted : countGroups? text = some count) : ∀ c ∈ text, IsAddressChar c := by
  unfold countGroups? at counted
  split at counted
  next empty => simp [empty]
  next =>
    dsimp only at counted
    split at counted
    next legal =>
      intro c member
      rcases mem_piece_of_mem ':' member with colon | ⟨group, among, within⟩
      · exact Or.inr (Or.inl colon)
      · exact Or.inl (isHexadecimal_of_isGroup (List.all_eq_true.mp legal group among) c within)
    next => cases counted

theorem countLastGroups_chars {text : List Char} {count : Nat}
    (counted : countLastGroups? text = some count) : ∀ c ∈ text, IsAddressChar c := by
  unfold countLastGroups? at counted
  split at counted
  next address => exact isAddressChar_of_isAddress4 address
  next =>
    dsimp only at counted
    split at counted
    next last found =>
      split at counted
      next legal =>
        obtain ⟨address, groups⟩ := legal
        intro c member
        rcases mem_piece_of_mem ':' member with colon | ⟨piece, among, within⟩
        · exact Or.inr (Or.inl colon)
        · rw [← List.dropLast_append_getLast? last found, List.mem_append, List.mem_singleton]
            at among
          rcases among with group | rfl
          · exact Or.inl
              (isHexadecimal_of_isGroup (List.all_eq_true.mp groups piece group) c within)
          · exact isAddressChar_of_isAddress4 address c within
      next => exact countGroups_chars counted
    next => exact countGroups_chars counted

theorem splitAtGap_eq {text before behind : List Char}
    (split : splitAtGap? text = some (before, behind)) : text = before ++ ':' :: ':' :: behind := by
  induction text using splitAtGap?.induct generalizing before with
  | case1 => cases split
  | case2 rest =>
      cases split
      rfl
  | case3 c rest not_gap ih =>
      rw [splitAtGap?] at split
      · obtain ⟨⟨front, back⟩, found, same⟩ := Option.map_eq_some_iff.mp split
        cases same
        rw [ih found]
        rfl
      · exact not_gap

theorem isAddressChar_of_isAddress6 {text : List Char} (address : isAddress6 text = true) :
    ∀ c ∈ text, IsAddressChar c := by
  unfold isAddress6 at address
  split at address
  next => exact countLastGroups_chars (beq_iff_eq.mp address)
  next before behind found =>
    split at address
    next first last counted_first counted_last =>
      rw [splitAtGap_eq found]
      intro c member
      rcases List.mem_append.mp member with within | gap
      · exact countGroups_chars counted_first c within
      · rcases List.mem_cons.mp gap with colon | gap
        · exact Or.inr (Or.inl colon)
        · rcases List.mem_cons.mp gap with colon | within
          · exact Or.inr (Or.inl colon)
          · exact countLastGroups_chars counted_last c within
    next => cases address

theorem isAddressChar_of_isAddress {host : String} (address : isAddress host = true) :
    ∀ c ∈ host.toList, IsAddressChar c := by
  rw [isAddress, Bool.or_eq_true] at address
  rcases address with octets | groups
  · exact isAddressChar_of_isAddress4 octets
  · exact isAddressChar_of_isAddress6 groups

theorem not_isAddress6_of_isAddress4 {text : List Char} (address : isAddress4 text = true) :
    isAddress6 text = false := by
  have no_gap : splitAtGap? text = none := by
    cases found : splitAtGap? text with
    | none => rfl
    | some parts =>
        refine absurd ?_ (colon_not_mem_address4 address)
        rw [@splitAtGap_eq text parts.1 parts.2 found]
        simp
  rw [isAddress6, no_gap]
  dsimp only
  rw [countLastGroups?, if_pos address]
  decide

end ProductCatalog.Http
