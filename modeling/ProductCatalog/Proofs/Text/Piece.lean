import Mathlib.Data.List.Infix
import Mathlib.Data.List.TakeWhile
import ProductCatalog.Proofs.Text.Lowercase

/-! Pieces of lowercase texts. All letters but the capital sigma have the same lowercase wherever
they stand, so the lowercase of a piece occurs in the lowercase of the text unless a sigma takes
another form in the piece alone than it has in its place. -/

namespace ProductCatalog.Text

/-- The lowercase of a piece of a text, as it stands between `before`, nearest character first, and
`after`. -/
def lowercaseBetween (before after : List Char) : List Char → List Char
  | [] => []
  | c :: rest =>
    if c = 'Σ' then
      lowercaseSigma before (rest ++ after) :: lowercaseBetween (c :: before) after rest
    else lowercaseChar c ++ lowercaseBetween (c :: before) after rest

theorem lowercaseAfter_append (before piece after : List Char) :
    lowercaseAfter before (piece ++ after) =
      lowercaseBetween before after piece ++ lowercaseAfter (piece.reverse ++ before) after := by
  induction piece generalizing before with
  | nil => rfl
  | cons c rest ih =>
      have others := ih (c :: before)
      rw [List.cons_append, lowercaseAfter, lowercaseBetween, List.reverse_cons, List.append_assoc,
        List.singleton_append, others]
      by_cases sigma : c = 'Σ'
      · rw [if_pos sigma, if_pos sigma, List.cons_append]
      · rw [if_neg sigma, if_neg sigma, List.append_assoc]

theorem lowercase_append (front piece back : List Char) :
    lowercase (front ++ piece ++ back) =
      lowercaseBetween [] (piece ++ back) front ++ lowercaseBetween front.reverse back piece ++
        lowercaseAfter (piece.reverse ++ front.reverse) back := by
  rw [lowercase, List.append_assoc, lowercaseAfter_append, lowercaseAfter_append, List.append_nil,
    List.append_assoc]

/-- Every capital sigma of a piece takes the same form in the piece alone as it has in its place,
between `before`, nearest character first, and `after`. -/
def KeepsSigmas (before piece after : List Char) : Prop :=
  ∀ left right, piece = left ++ 'Σ' :: right →
    lowercaseSigma (left.reverse ++ before) (right ++ after) = lowercaseSigma left.reverse right

theorem forall_split_cons (c : Char) (rest : List Char) (holds : List Char → List Char → Prop) :
    (∀ left right, c :: rest = left ++ 'Σ' :: right → holds left right) ↔
      (c = 'Σ' → holds [] rest) ∧
        ∀ left right, rest = left ++ 'Σ' :: right → holds (c :: left) right := by
  constructor
  · intro each
    constructor
    · rintro rfl
      exact each [] rest rfl
    · rintro left right rfl
      exact each (c :: left) right rfl
  · rintro ⟨first, others⟩ left right split
    cases left with
    | nil =>
        obtain ⟨sigma, rfl⟩ := List.cons.inj split
        exact first sigma
    | cons d left =>
        obtain ⟨rfl, later⟩ := List.cons.inj split
        exact others left right later

theorem lowercaseBetween_eq_iff (seen before after piece : List Char) :
    lowercaseBetween (seen ++ before) after piece = lowercaseAfter seen piece ↔
      ∀ left right, piece = left ++ 'Σ' :: right →
        lowercaseSigma (left.reverse ++ (seen ++ before)) (right ++ after) =
          lowercaseSigma (left.reverse ++ seen) right := by
  induction piece generalizing seen with
  | nil => simp [lowercaseBetween, lowercaseAfter]
  | cons c rest ih =>
      have others := ih (c :: seen)
      rw [List.cons_append] at others
      rw [forall_split_cons, lowercaseBetween, lowercaseAfter]
      simp only [List.reverse_cons, List.append_assoc, List.singleton_append, List.reverse_nil,
        List.nil_append]
      by_cases sigma : c = 'Σ'
      · rw [if_pos sigma, if_pos sigma, List.cons_eq_cons, ← others]
        simp only [sigma, true_implies]
      · rw [if_neg sigma, if_neg sigma, List.append_cancel_left_eq, ← others]
        simp only [sigma, false_implies, true_and]

theorem lowercaseBetween_eq_lowercase_iff (before piece after : List Char) :
    lowercaseBetween before after piece = lowercase piece ↔ KeepsSigmas before piece after := by
  have compared := lowercaseBetween_eq_iff [] before after piece
  simp only [List.nil_append, List.append_nil] at compared
  exact compared

theorem KeepsSigmas.lowercase_infix {front piece back : List Char}
    (keeps : KeepsSigmas front.reverse piece back) :
    lowercase piece <:+: lowercase (front ++ piece ++ back) := by
  have same := (lowercaseBetween_eq_lowercase_iff front.reverse piece back).mpr keeps
  rw [lowercase_append, same]
  exact List.infix_append _ _ _

theorem meetsCased_append {text : List Char} (firm : ∃ c ∈ text, isCaseIgnorable c = false)
    (more : List Char) : meetsCased (text ++ more) = meetsCased text := by
  obtain ⟨c, member, seen⟩ := firm
  have stops : text.dropWhile isCaseIgnorable ≠ [] := by
    intro passed
    have through := List.dropWhile_eq_nil_iff.mp passed c member
    rw [seen] at through
    cases through
  obtain ⟨d, rest, reached⟩ := List.exists_cons_of_ne_nil stops
  simp only [meetsCased, List.dropWhile_append, reached, List.isEmpty_cons, Bool.false_eq_true,
    if_false, List.cons_append]

/-- Every capital sigma of a piece has, within the piece, a character on either side that is not
looked through. -/
def Guarded (piece : List Char) : Prop :=
  ∀ left right, piece = left ++ 'Σ' :: right →
    (∃ c ∈ left, isCaseIgnorable c = false) ∧ ∃ c ∈ right, isCaseIgnorable c = false

theorem guarded_of_not_mem {piece : List Char} (absent : 'Σ' ∉ piece) : Guarded piece := by
  rintro left right rfl
  exact absurd (List.mem_append_right left List.mem_cons_self) absent

theorem Guarded.keepsSigmas {piece : List Char} (guarded : Guarded piece)
    (before after : List Char) : KeepsSigmas before piece after := by
  intro left right split
  obtain ⟨⟨c, onLeft, cSeen⟩, onRight⟩ := guarded left right split
  have reversed : ∃ c ∈ left.reverse, isCaseIgnorable c = false :=
    ⟨c, List.mem_reverse.mpr onLeft, cSeen⟩
  rw [lowercaseSigma, meetsCased_append reversed, meetsCased_append onRight, lowercaseSigma]

end ProductCatalog.Text
