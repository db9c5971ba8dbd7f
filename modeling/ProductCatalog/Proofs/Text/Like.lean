import Mathlib.Data.List.Basic
import Mathlib.Data.List.Infix
import Mathlib.Data.List.TakeWhile
import ProductCatalog.Text.Like

/-! Patterns made from literal text. Behind a percent sign the text is looked for anywhere, with
another percent sign behind it; without that one it has to stand at the end. What is found is the
text as it is read, and so the text itself where its characters are told apart. -/

namespace ProductCatalog.Text.Like

def escapeChar (c : Char) : List Char :=
  if c = '\\' ∨ c = '%' ∨ c = '_' then ['\\', c] else [c]

/-- The three replacements do not get into each other's way. -/
theorem escape_eq_flatMap (text : List Char) : escape text = text.flatMap escapeChar := by
  simp only [escape, replaceChar, List.flatMap_assoc]
  congr 1
  funext c
  by_cases backslash : c = '\\'
  · subst backslash
    decide
  · by_cases percent : c = '%'
    · subst percent
      decide
    · by_cases underline : c = '_'
      · subst underline
        decide
      · simp [escapeChar, backslash, percent, underline]

theorem escape_nil : escape [] = [] := rfl

theorem escape_singleton (c : Char) : escape [c] = escapeChar c := by
  simp [escape_eq_flatMap]

theorem escape_append (front back : List Char) :
    escape (front ++ back) = escape front ++ escape back := by
  simp only [escape_eq_flatMap, List.flatMap_append]

theorem escape_cons (c : Char) (text : List Char) :
    escape (c :: text) = escapeChar c ++ escape text := by
  simp only [escape_eq_flatMap, List.flatMap_cons]

def unescape : List Char → List Char
  | '\\' :: c :: rest => c :: unescape rest
  | c :: rest => c :: unescape rest
  | [] => []

theorem unescape_escapeChar (c : Char) (rest : List Char) :
    unescape (escapeChar c ++ rest) = c :: unescape rest := by
  unfold escapeChar
  split
  · rfl
  · rename_i plain
    have unmarked : c ≠ '\\' := fun same => plain (Or.inl same)
    rw [List.singleton_append, unescape]
    exact fun _ _ same _ => unmarked same

theorem unescape_escape (text : List Char) : unescape (escape text) = text := by
  induction text with
  | nil => rfl
  | cons c rest ih => rw [escape_cons, unescape_escapeChar, ih]

theorem containing_injective : Function.Injective containing := by
  intro left right same
  apply Function.LeftInverse.injective unescape_escape
  exact List.append_cancel_right (List.cons.inj same).2

theorem anyEnd_iff (test : List Char → Bool) (text : List Char) :
    anyEnd test text = true ↔ ∃ front back, text = front ++ back ∧ test back = true := by
  induction text with
  | nil =>
      constructor
      · intro passed
        exact ⟨[], [], rfl, passed⟩
      · rintro ⟨front, back, split, passed⟩
        obtain ⟨rfl, rfl⟩ := List.append_eq_nil_iff.mp split.symm
        exact passed
  | cons c rest ih =>
      rw [anyEnd, Bool.or_eq_true, ih]
      constructor
      · rintro (whole | ⟨front, back, rfl, passed⟩)
        · exact ⟨[], c :: rest, rfl, whole⟩
        · exact ⟨c :: front, back, rfl, passed⟩
      · rintro ⟨front, back, split, passed⟩
        cases front with
        | nil =>
            rw [List.nil_append] at split
            exact Or.inl (split ▸ passed)
        | cons d front =>
            obtain ⟨rfl, rfl⟩ := List.cons.inj split
            exact Or.inr ⟨front, back, rfl, passed⟩

theorem accepts_literal (c : Char) (pattern text : List Char) :
    accepts (escapeChar c ++ pattern) text =
      match text with
      | [] => false
      | d :: rest => sameLetter c d && accepts pattern rest := by
  unfold escapeChar
  split
  · rfl
  · rename_i plain
    simp only [not_or] at plain
    obtain ⟨notEscape, notPercent, notUnderline⟩ := plain
    rw [List.singleton_append]
    cases text with
    | nil =>
        rw [accepts]
        · exact fun same _ => notEscape same
        · exact fun _ _ same _ => notEscape same
        · exact notPercent
        · exact notUnderline
    | cons d rest =>
        rw [accepts]
        · exact fun same _ => notEscape same
        · exact fun _ _ same _ => notEscape same
        · exact notPercent
        · exact notUnderline

theorem accepts_escapeChar (c : Char) (pattern text : List Char) :
    accepts (escapeChar c ++ pattern) text = true ↔
      ∃ d rest, text = d :: rest ∧ letter d = letter c ∧ accepts pattern rest = true := by
  rw [accepts_literal]
  cases text with
  | nil => simp
  | cons d rest =>
      simp only [Bool.and_eq_true, sameLetter, beq_iff_eq]
      constructor
      · rintro ⟨same, others⟩
        exact ⟨d, rest, rfl, same.symm, others⟩
      · rintro ⟨_, _, split, same, others⟩
        obtain ⟨rfl, rfl⟩ := List.cons.inj split
        exact ⟨same.symm, others⟩

theorem accepts_escape (needle pattern text : List Char) :
    accepts (escape needle ++ pattern) text = true ↔
      ∃ front back, text = front ++ back ∧ front.map letter = needle.map letter ∧
        accepts pattern back = true := by
  induction needle generalizing text with
  | nil =>
      constructor
      · intro accepted
        exact ⟨[], text, rfl, rfl, accepted⟩
      · rintro ⟨front, back, rfl, same, accepted⟩
        rw [List.map_eq_nil_iff.mp same]
        exact accepted
  | cons c needle ih =>
      rw [escape_cons, List.append_assoc, accepts_escapeChar]
      constructor
      · rintro ⟨d, rest, rfl, first, accepted⟩
        obtain ⟨front, back, rfl, others, last⟩ := (ih rest).mp accepted
        exact ⟨d :: front, back, rfl, by rw [List.map_cons, List.map_cons, first, others], last⟩
      · rintro ⟨front, back, rfl, same, last⟩
        cases front with
        | nil => simp at same
        | cons d front =>
            obtain ⟨first, others⟩ := List.cons.inj same
            exact ⟨d, front ++ back, rfl, first, (ih _).mpr ⟨front, back, rfl, others, last⟩⟩

theorem accepts_percent (pattern text : List Char) :
    accepts ('%' :: pattern) text = true ↔
      ∃ front back, text = front ++ back ∧ accepts pattern back = true :=
  anyEnd_iff (accepts pattern) text

theorem accepts_anything (text : List Char) : accepts ['%'] text = true := by
  rw [accepts_percent]
  exact ⟨text, [], (List.append_nil text).symm, rfl⟩

/-- A needle between percent signs is found wherever it occurs. -/
theorem accepts_containing (needle text : List Char) :
    accepts (containing needle) text = true ↔
      needle.map letter <:+: text.map letter := by
  have unfolded : containing needle = '%' :: (escape needle ++ ['%']) := rfl
  rw [unfolded, accepts_percent]
  simp only [accepts_escape, accepts_anything, and_true]
  constructor
  · rintro ⟨before, _, rfl, found, after, rfl, same⟩
    refine ⟨before.map letter, after.map letter, ?_⟩
    rw [← same, List.map_append, List.map_append, List.append_assoc]
  · rintro ⟨before, after, split⟩
    obtain ⟨front, last, rfl, frontEq, _⟩ := List.map_eq_append_iff.mp split.symm
    obtain ⟨first, found, rfl, _, foundEq⟩ := List.map_eq_append_iff.mp frontEq
    exact ⟨first, found ++ last, List.append_assoc _ _ _, found, last, rfl, foundEq⟩

/-- A needle behind a percent sign is found at the end only. -/
theorem accepts_ending (needle text : List Char) :
    accepts ('%' :: escape needle) text = true ↔
      needle.map letter <:+ text.map letter := by
  have nothing (back : List Char) : accepts [] back = true ↔ back = [] := List.isEmpty_iff
  rw [accepts_percent, ← List.append_nil (escape needle)]
  simp only [accepts_escape, nothing]
  constructor
  · rintro ⟨before, _, rfl, found, _, rfl, same, rfl⟩
    refine ⟨before.map letter, ?_⟩
    rw [← same, List.append_nil, List.map_append]
  · rintro ⟨before, split⟩
    obtain ⟨front, found, rfl, _, foundEq⟩ := List.map_eq_append_iff.mp split.symm
    exact ⟨front, found, rfl, found, [], (List.append_nil found).symm, foundEq, rfl⟩

theorem visible_of_not_mem {text : List Char} (whole : '\u0000' ∉ text) : visible text = text := by
  rw [visible, List.takeWhile_eq_self_iff]
  intro c member
  simp only [decide_eq_true_eq]
  rintro rfl
  exact whole member

theorem visible_append_of_not_mem {front : List Char} (whole : '\u0000' ∉ front)
    (back : List Char) : visible (front ++ back) = front ++ visible back := by
  apply List.takeWhile_append_of_pos
  intro c member
  simp only [decide_eq_true_eq]
  rintro rfl
  exact whole member

theorem visible_append_of_mem {front : List Char} (cut : '\u0000' ∈ front) (back : List Char) :
    visible (front ++ back) = visible front := by
  induction front with
  | nil => simp at cut
  | cons c front ih =>
      rw [visible, visible, List.cons_append, List.takeWhile_cons, List.takeWhile_cons]
      by_cases zero : c = '\u0000'
      · simp [zero]
      · have later : '\u0000' ∈ front := by
          rcases List.mem_cons.mp cut with same | later
          · exact absurd same.symm zero
          · exact later
        have others := ih later
        simp only [visible] at others
        simp only [zero, ne_eq, not_false_eq_true, decide_true, if_true, others]

theorem zero_mem_escapeChar (c : Char) : '\u0000' ∈ escapeChar c ↔ '\u0000' = c := by
  unfold escapeChar
  split <;> simp

theorem zero_mem_escape (needle : List Char) : '\u0000' ∈ escape needle ↔ '\u0000' ∈ needle := by
  simp only [escape_eq_flatMap, List.mem_flatMap, zero_mem_escapeChar, exists_eq_right']

theorem visible_escape (needle : List Char) :
    visible (escape needle) = escape (visible needle) := by
  induction needle with
  | nil => rfl
  | cons c needle ih =>
      rw [escape_cons]
      by_cases zero : c = '\u0000'
      · subst zero
        rfl
      · have whole : '\u0000' ∉ escapeChar c := by
          rw [zero_mem_escapeChar]
          exact fun same => zero same.symm
        have kept : visible (c :: needle) = c :: visible needle :=
          List.takeWhile_cons_of_pos (by simpa using zero)
        rw [visible_append_of_not_mem whole, ih, kept, escape_cons]

theorem visible_containing (needle : List Char) :
    visible (containing needle) =
      if '\u0000' ∈ needle then '%' :: escape (visible needle) else containing needle := by
  have unfolded : containing needle = ['%'] ++ (escape needle ++ ['%']) := rfl
  have percent : '\u0000' ∉ ['%'] := by decide
  rw [unfolded, visible_append_of_not_mem percent]
  split
  · rename_i cut
    rw [visible_append_of_mem ((zero_mem_escape needle).mpr cut), visible_escape]
    rfl
  · rename_i whole
    rw [visible_append_of_not_mem (fun cut => whole ((zero_mem_escape needle).mp cut))]
    rfl

/-- A name is found by a needle that occurs in it, and by a needle with U+0000 in it when the part
before that stands at the end of the name. Names are looked at up to their first U+0000. -/
theorem isMatch_containing (needle text : List Char) :
    isMatch (containing needle) text = true ↔
      if '\u0000' ∈ needle then
        (visible needle).map letter <:+ (visible text).map letter
      else needle.map letter <:+: (visible text).map letter := by
  rw [isMatch, visible_containing]
  split
  · exact accepts_ending _ _
  · exact accepts_containing _ _

/-- The characters that are all read as the first of them. -/
def lookalikes : List Char :=
  ['\uFFFD', '\uFFFE', '\uFFFF']

theorem asRead_cases (c : Char) : asRead c = c ∨ c ∈ lookalikes ∧ asRead c = '\uFFFD' := by
  unfold asRead lookalikes
  split
  · rename_i unreadable
    exact Or.inr ⟨List.mem_cons_of_mem _ (by simpa using unreadable), rfl⟩
  · exact Or.inl rfl

theorem mem_lookalikes_of_asRead {c d : Char} (same : asRead c = asRead d) (apart : c ≠ d) :
    c ∈ lookalikes ∧ d ∈ lookalikes := by
  have first : '\uFFFD' ∈ lookalikes := List.mem_cons_self
  rcases asRead_cases c with plain | ⟨among, read⟩
  · rcases asRead_cases d with other | ⟨otherAmong, otherRead⟩
    · exact absurd (plain.symm.trans (same.trans other)) apart
    · rw [plain, otherRead] at same
      exact ⟨same ▸ first, otherAmong⟩
  · rcases asRead_cases d with other | ⟨otherAmong, _⟩
    · rw [read, other] at same
      exact ⟨among, same ▸ first⟩
    · exact ⟨among, otherAmong⟩

/-- No character of a needle is read as another character of the text. -/
def ToldApart (needle text : List Char) : Prop :=
  ∀ c ∈ needle, ∀ d ∈ text, asRead c = asRead d → c = d

instance (needle text : List Char) : Decidable (ToldApart needle text) :=
  inferInstanceAs (Decidable (∀ c ∈ needle, ∀ d ∈ text, asRead c = asRead d → c = d))

theorem toldApart_of_not_mem {needle text : List Char}
    (absent : ∀ c ∈ ['\uFFFE', '\uFFFF'], c ∉ needle ∧ c ∉ text) : ToldApart needle text := by
  have plain {c : Char} (known : ∀ d ∈ ['\uFFFE', '\uFFFF'], c ≠ d) : asRead c = c := by
    apply if_neg
    rintro (rfl | rfl)
    · exact known _ (by simp) rfl
    · exact known _ (by simp) rfl
  intro c among d there same
  rw [plain, plain] at same
  · exact same
  · rintro e special rfl
    exact (absent d special).2 there
  · rintro e special rfl
    exact (absent c special).1 among

theorem ToldApart.eq_of_map {needle found : List Char} (apart : ToldApart needle found)
    (same : needle.map asRead = found.map asRead) : needle = found := by
  induction needle generalizing found with
  | nil => exact (List.map_eq_nil_iff.mp same.symm).symm
  | cons c needle ih =>
      cases found with
      | nil => simp at same
      | cons d found =>
          obtain ⟨first, others⟩ := List.cons.inj same
          have one := apart c List.mem_cons_self d List.mem_cons_self first
          have rest := ih (fun e among f there =>
            apart e (List.mem_cons_of_mem c among) f (List.mem_cons_of_mem d there)) others
          rw [one, rest]

theorem ToldApart.map_infix_iff {needle text : List Char} (apart : ToldApart needle text) :
    needle.map asRead <:+: text.map asRead ↔ needle <:+: text := by
  constructor
  · rintro ⟨before, after, split⟩
    obtain ⟨front, last, rfl, frontEq, _⟩ := List.map_eq_append_iff.mp split.symm
    obtain ⟨first, found, rfl, _, foundEq⟩ := List.map_eq_append_iff.mp frontEq
    have part : ToldApart needle found := by
      intro c among d there
      exact apart c among d (List.mem_append_left _ (List.mem_append_right _ there))
    rw [part.eq_of_map foundEq.symm]
    exact List.infix_append first found last
  · exact fun within => within.map asRead

end ProductCatalog.Text.Like
