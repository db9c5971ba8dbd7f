import Mathlib.Data.List.Basic
import Mathlib.Data.List.Chain
import ProductCatalog.Query.Comparison

/-! Tokens of comparisons and the texts that they are read from. A text has one list of tokens: what
is written together is read as the same tokens again as soon as no two of them run into each other.
Commas cut texts and tokens in the same places. -/

namespace ProductCatalog.Query

def isMark (c : Char) : Bool :=
  c == ',' || c == '<' || c == '>' || c == '='

structure IsPlain (text : List Char) : Prop where
  some_character : text ≠ []
  free : ∀ c ∈ text, isMark c = false

namespace Token

def Proper : Token → Prop
  | text characters => IsPlain characters
  | comparator _ | comma => True

/-- Whether the second token, right behind the first, is still read as one of its own. -/
def StaysApart : Token → Token → Prop
  | text _, text _ => False
  | comparator .greater, comparator .equal => False
  | comparator .less, comparator .equal => False
  | _, _ => True

structure Separate (tokens : List Token) : Prop where
  proper : ∀ token ∈ tokens, token.Proper
  apart : tokens.IsChain StaysApart

theorem separate_nil : Separate [] :=
  ⟨by simp, List.IsChain.nil⟩

theorem separate_cons {first : Token} {rest : List Token} :
    Separate (first :: rest) ↔
      first.Proper ∧ (∀ second ∈ rest.head?, StaysApart first second) ∧ Separate rest := by
  constructor
  · rintro ⟨proper, apart⟩
    obtain ⟨here, later⟩ := List.forall_mem_cons.mp proper
    obtain ⟨next, others⟩ := List.isChain_cons.mp apart
    exact ⟨here, next, later, others⟩
  · rintro ⟨here, next, later, others⟩
    exact ⟨List.forall_mem_cons.mpr ⟨here, later⟩, List.isChain_cons.mpr ⟨next, others⟩⟩

theorem toChars_cons (token : Token) (tokens : List Token) :
    toChars (token :: tokens) = token.characters ++ toChars tokens :=
  List.flatMap_cons

theorem toChars_prependChar (c : Char) (tokens : List Token) :
    toChars (prependChar c tokens) = c :: toChars tokens := by
  rcases tokens with _ | ⟨_ | _ | _, rest⟩ <;> rfl

theorem toChars_ofChars (text : List Char) : toChars (ofChars text) = text := by
  fun_induction ofChars text with
  | case1 => rfl
  | case2 rest ih => rw [toChars_cons, ih]; rfl
  | case3 rest ih => rw [toChars_cons, ih]; rfl
  | case4 rest ih => rw [toChars_cons, ih]; rfl
  | case5 rest _ ih => rw [toChars_cons, ih]; rfl
  | case6 rest _ ih => rw [toChars_cons, ih]; rfl
  | case7 rest ih => rw [toChars_cons, ih]; rfl
  | case8 c rest _ _ _ _ _ _ ih => rw [toChars_prependChar, ih]

theorem ofChars_of_not_mark {c : Char} (plain : isMark c = false) (rest : List Char) :
    ofChars (c :: rest) = prependChar c (ofChars rest) := by
  have apart : ∀ mark, isMark mark = true → c ≠ mark := by
    rintro mark marked rfl
    exact absurd (plain.symm.trans marked) (by decide)
  rw [ofChars]
  · exact apart ',' rfl
  · exact fun _ same _ => apart '>' rfl same
  · exact fun _ same _ => apart '<' rfl same
  · exact apart '>' rfl
  · exact apart '<' rfl
  · exact apart '=' rfl

theorem prependChar_separate {c : Char} (plain : isMark c = false) {tokens : List Token}
    (separate : Separate tokens) : Separate (prependChar c tokens) := by
  have single : IsPlain [c] := ⟨by simp, by simpa using plain⟩
  rcases tokens with _ | ⟨characters | sign | _, rest⟩
  · exact separate_cons.mpr ⟨single, by simp, separate⟩
  · obtain ⟨⟨_, free⟩, next, others⟩ := separate_cons.mp separate
    have longer : IsPlain (c :: characters) :=
      ⟨by simp, List.forall_mem_cons.mpr ⟨plain, free⟩⟩
    refine separate_cons.mpr ⟨longer, ?_, others⟩
    intro second member
    have after := next second member
    cases second with
    | text _ => exact after.elim
    | comparator _ => trivial
    | comma => trivial
  · exact separate_cons.mpr ⟨single, by simp [StaysApart], separate⟩
  · exact separate_cons.mpr ⟨single, by simp [StaysApart], separate⟩

/-- Only a text that begins with an equality sign is read as tokens that begin with one. -/
theorem not_equal_of_head_ofChars {text : List Char} (apart : ∀ rest, text ≠ '=' :: rest) :
    ∀ first ∈ (ofChars text).head?, first ≠ comparator .equal := by
  rintro first member rfl
  obtain ⟨others, tokens⟩ := List.head?_eq_some_iff.mp member
  have whole := toChars_ofChars text
  rw [tokens, toChars_cons] at whole
  exact apart (toChars others) whole.symm

theorem staysApart_of_not_equal {sign : Comparator} {second : Token}
    (apart : second ≠ comparator .equal) : StaysApart (comparator sign) second := by
  rcases second with characters | ⟨_ | _ | _ | _ | _⟩ | _
  case comparator.equal => exact absurd rfl apart
  all_goals cases sign <;> trivial

theorem separate_ofChars (text : List Char) : Separate (ofChars text) := by
  fun_induction ofChars text with
  | case1 => exact separate_nil
  | case2 rest ih => exact separate_cons.mpr ⟨trivial, by simp [StaysApart], ih⟩
  | case3 rest ih => exact separate_cons.mpr ⟨trivial, by simp [StaysApart], ih⟩
  | case4 rest ih => exact separate_cons.mpr ⟨trivial, by simp [StaysApart], ih⟩
  | case5 rest apart ih =>
      refine separate_cons.mpr ⟨trivial, ?_, ih⟩
      intro second member
      exact staysApart_of_not_equal (not_equal_of_head_ofChars apart second member)
  | case6 rest apart ih =>
      refine separate_cons.mpr ⟨trivial, ?_, ih⟩
      intro second member
      exact staysApart_of_not_equal (not_equal_of_head_ofChars apart second member)
  | case7 rest ih => exact separate_cons.mpr ⟨trivial, by simp [StaysApart], ih⟩
  | case8 c rest comma greaterOrEqual lessOrEqual greater less equal ih =>
      have plain : isMark c = false := by
        simp only [isMark, Bool.or_eq_false_iff, beq_eq_false_iff_ne]
        exact ⟨⟨⟨comma, less⟩, greater⟩, equal⟩
      exact prependChar_separate plain ih

theorem ofChars_text {characters : List Char} (plain : IsPlain characters) {tokens : List Token}
    {rest : List Char} (read : ofChars rest = tokens)
    (apart : ∀ others, tokens.head? ≠ some (text others)) :
    ofChars (characters ++ rest) = text characters :: tokens := by
  obtain ⟨some_character, free⟩ := plain
  induction characters with
  | nil => exact absurd rfl some_character
  | cons c others ih =>
      obtain ⟨here, later⟩ := List.forall_mem_cons.mp free
      rw [List.cons_append, ofChars_of_not_mark here]
      cases others with
      | nil =>
          rw [List.nil_append, read]
          rcases tokens with _ | ⟨_ | _ | _, _⟩
          · rfl
          · exact absurd rfl (apart _)
          · rfl
          · rfl
      | cons d others =>
          rw [ih (by simp) later]
          rfl

theorem equal_of_toChars {tokens : List Token} (separate : Separate tokens) {rest : List Char}
    (begins : toChars tokens = '=' :: rest) : tokens.head? = some (comparator .equal) := by
  rcases tokens with _ | ⟨characters | sign | _, others⟩
  · simp [toChars] at begins
  · obtain ⟨⟨some_character, free⟩, _, _⟩ := separate_cons.mp separate
    cases characters with
    | nil => exact absurd rfl some_character
    | cons c characters =>
        have first : c = '=' := (List.cons.inj begins).1
        have plain := free c List.mem_cons_self
        rw [first] at plain
        exact absurd plain (by decide)
  · cases sign with
    | equal => rfl
    | _ => exact absurd (List.cons.inj begins).1 (by decide)
  · exact absurd (List.cons.inj begins).1 (by decide)

/-- Tokens that do not run into each other are read back from what is written. -/
theorem ofChars_toChars {tokens : List Token} (separate : Separate tokens) :
    ofChars (toChars tokens) = tokens := by
  induction tokens with
  | nil => rfl
  | cons first rest ih =>
      obtain ⟨proper, next, others⟩ := separate_cons.mp separate
      have read := ih others
      rw [toChars_cons]
      cases first with
      | text characters =>
          exact ofChars_text proper read fun _ same => next _ same
      | comma => exact congrArg (comma :: ·) read
      | comparator sign =>
          cases sign with
          | equal => exact congrArg (comparator .equal :: ·) read
          | greaterOrEqual => exact congrArg (comparator .greaterOrEqual :: ·) read
          | lessOrEqual => exact congrArg (comparator .lessOrEqual :: ·) read
          | greater =>
              have apart : ∀ tail, toChars rest = '=' :: tail → False :=
                fun tail begins => next _ (equal_of_toChars others begins)
              change ofChars ('>' :: toChars rest) = _
              rw [ofChars.eq_5 _ apart, read]
          | less =>
              have apart : ∀ tail, toChars rest = '=' :: tail → False :=
                fun tail begins => next _ (equal_of_toChars others begins)
              change ofChars ('<' :: toChars rest) = _
              rw [ofChars.eq_6 _ apart, read]

/-- A text has exactly one list of tokens. -/
theorem ofChars_eq_iff (text : List Char) (tokens : List Token) :
    ofChars text = tokens ↔ toChars tokens = text ∧ Separate tokens := by
  constructor
  · rintro rfl
    exact ⟨toChars_ofChars text, separate_ofChars text⟩
  · rintro ⟨rfl, separate⟩
    exact ofChars_toChars separate

/-- Reading texts and writing tokens undo each other. Nothing of a text is lost, its tokens do not
run into each other, and the lists of tokens that do not are those that are read back. -/
theorem reading_inverts_writing :
    (∀ text, toChars (ofChars text) = text ∧ Separate (ofChars text)) ∧
    ∀ tokens, ofChars (toChars tokens) = tokens ↔ Separate tokens := by
  constructor
  · intro text
    exact ⟨toChars_ofChars text, separate_ofChars text⟩
  · intro tokens
    constructor
    · intro read
      rw [← read]
      exact separate_ofChars (toChars tokens)
    · exact ofChars_toChars

example : ofChars ['>', '>', '=', '<', '=', '>', 'é', '=', '='] =
    [comparator .greater, comparator .greaterOrEqual, comparator .lessOrEqual,
      comparator .greater, text ['é'], comparator .equal, comparator .equal] := by decide

theorem comma_mem_ofChars {text : List Char} (member : comma ∈ ofChars text) : ',' ∈ text := by
  rw [← toChars_ofChars text]
  exact List.mem_flatMap.mpr ⟨comma, member, List.mem_singleton_self ','⟩

theorem ofChars_comma (front back : List Char) :
    ofChars (front ++ ',' :: back) = ofChars front ++ comma :: ofChars back := by
  have separate : Separate (ofChars front ++ comma :: ofChars back) := by
    have first := separate_ofChars front
    have last := separate_ofChars back
    constructor
    · intro token member
      rcases List.mem_append.mp member with before | after
      · exact first.proper token before
      · rcases List.mem_cons.mp after with rfl | after
        · trivial
        · exact last.proper token after
    · have between (token : Token) : StaysApart token comma := by
        rcases token with _ | ⟨_ | _ | _ | _ | _⟩ | _ <;> trivial
      apply List.IsChain.append first.apart
      · exact List.isChain_cons.mpr ⟨fun second _ => by simp [StaysApart], last.apart⟩
      · rintro left _ right member
        cases member
        exact between left
  rw [← ofChars_toChars separate]
  congr 1
  rw [toChars, List.flatMap_append, ← toChars, toChars_ofChars]
  exact congrArg (front ++ ',' :: ·) (toChars_ofChars back).symm

end Token

/-- What holds of texts without a comma and is kept when two texts are joined by one holds of all
texts. -/
theorem comma_induction {holds : List Char → Prop}
    (piece : ∀ text, ',' ∉ text → holds text)
    (join : ∀ front back, holds front → holds back → holds (front ++ ',' :: back)) :
    ∀ text, holds text := by
  intro text
  induction size : text.length using Nat.strongRecOn generalizing text with
  | ind length ih =>
      by_cases some_comma : ',' ∈ text
      · obtain ⟨front, back, rfl⟩ := List.append_of_mem some_comma
        rw [List.length_append, List.length_cons] at size
        exact join front back (ih front.length (by omega) front rfl)
          (ih back.length (by omega) back rfl)
      · exact piece text some_comma

theorem length_splitOn_comma (text : List Char) :
    (text.splitOn ',').length = text.count ',' + 1 := by
  induction text using comma_induction with
  | piece text absent => simp [List.splitOn_eq_singleton absent, List.count_eq_zero.mpr absent]
  | join front back first last =>
      rw [List.splitOn_append_cons_self, List.length_append, first, last, List.count_append,
        List.count_cons_self]
      omega

theorem comma_not_mem_piece (text : List Char) : ∀ piece ∈ text.splitOn ',', ',' ∉ piece := by
  induction text using comma_induction with
  | piece text absent => simpa [List.splitOn_eq_singleton absent] using absent
  | join front back first last =>
      rw [List.splitOn_append_cons_self]
      intro piece member
      rcases List.mem_append.mp member with before | after
      · exact first piece before
      · exact last piece after

/-- The tokens between commas are those of the texts between commas. -/
theorem splitOn_ofChars (text : List Char) :
    (Token.ofChars text).splitOn .comma = (text.splitOn ',').map Token.ofChars := by
  induction text using comma_induction with
  | piece text absent =>
      have no_comma : Token.comma ∉ Token.ofChars text :=
        fun member => absent (Token.comma_mem_ofChars member)
      rw [List.splitOn_eq_singleton absent, List.splitOn_eq_singleton no_comma]
      rfl
  | join front back first last =>
      rw [Token.ofChars_comma, List.splitOn_append_cons_self, List.splitOn_append_cons_self, first,
        last, List.map_append]

end ProductCatalog.Query
