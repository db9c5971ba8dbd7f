import Mathlib.Data.List.Induction
import Mathlib.Data.List.Sort
import ProductCatalog.Proofs.Query.Sorting

/-! Which keys a text of sort fields comes to. Each field has the direction in which it is named
first, fields stand in the order in which they are first named, and all else is passed over. -/

namespace ProductCatalog

theorem Field.ofLabel_eq_some_iff (label : String) (field : Field) :
    Field.ofLabel? label = some field ↔ label = field.label := by
  constructor
  · intro found
    have named := List.find?_some found
    exact (of_decide_eq_true named).symm
  · rintro rfl
    cases field <;> decide

theorem Field.ofLabel_ofList_eq_some_iff (name : List Char) (field : Field) :
    Field.ofLabel? (String.ofList name) = some field ↔ name = field.label.toList := by
  rw [Field.ofLabel_eq_some_iff, ← String.toList_inj, String.toList_ofList]

namespace Query

/-- How a key is written: the name of its field, directly behind a minus where the order is
reversed. -/
def SortKey.text (key : SortKey) : List Char :=
  match key.direction with
  | .ascending => key.field.label.toList
  | .descending => '-' :: key.field.label.toList

theorem label_not_signed (field : Field) (rest : List Char) : field.label.toList ≠ '-' :: rest := by
  cases field <;> simp [Field.label]

theorem sortKey_minus (name : List Char) : sortKey? ('-' :: name) =
    (Field.ofLabel? (String.ofList name)).map (⟨·, .descending⟩) := rfl

theorem sortKey_plain {name : List Char} (unsigned : ∀ rest, name ≠ '-' :: rest) :
    sortKey? name = (Field.ofLabel? (String.ofList name)).map (⟨·, .ascending⟩) := by
  unfold sortKey?
  split
  · exact absurd rfl (unsigned _)
  · rfl

theorem sortKey_eq_some_iff (name : List Char) (key : SortKey) :
    sortKey? name = some key ↔ name = key.text := by
  obtain ⟨field, direction⟩ := key
  by_cases signed : ∃ rest, name = '-' :: rest
  · obtain ⟨rest, rfl⟩ := signed
    rw [sortKey_minus, Option.map_eq_some_iff]
    cases direction with
    | ascending => simpa [SortKey.text] using (label_not_signed field rest).symm
    | descending => simp [SortKey.text, Field.ofLabel_ofList_eq_some_iff]
  · have unsigned : ∀ rest, name ≠ '-' :: rest := fun rest same => signed ⟨rest, same⟩
    rw [sortKey_plain unsigned, Option.map_eq_some_iff]
    cases direction with
    | ascending => simp [SortKey.text, Field.ofLabel_ofList_eq_some_iff]
    | descending => simpa [SortKey.text] using unsigned _

/-- The piece names the key. Blanks around it do not count. -/
def Names (piece : List Char) (key : SortKey) : Prop :=
  Text.trim piece = key.text

theorem sortKey_trim_iff (piece : List Char) (key : SortKey) :
    sortKey? (Text.trim piece) = some key ↔ Names piece key :=
  sortKey_eq_some_iff _ key

/-- One of the pieces names the field, in either direction. -/
def NamesField (pieces : List (List Char)) (field : Field) : Prop :=
  ∃ piece ∈ pieces, ∃ key, Names piece key ∧ key.field = field

/-- The key is named, and no piece before the one that names it names its field. -/
def NamesFirst (pieces : List (List Char)) (key : SortKey) : Prop :=
  ∃ front piece back, pieces = front ++ piece :: back ∧ Names piece key ∧
    ¬NamesField front key.field

/-- Some pieces at the front name the one field and not the other. -/
def NamesBefore (pieces : List (List Char)) (early late : Field) : Prop :=
  ∃ front back, pieces = front ++ back ∧ NamesField front early ∧ ¬NamesField front late

/-- The keys are those that are first to name their field, in the order in which they do. -/
structure FirstWins (pieces : List (List Char)) (keys : List SortKey) : Prop where
  mem_iff : ∀ key, key ∈ keys ↔ NamesFirst pieces key
  ordered : keys.Pairwise fun early late => NamesBefore pieces early.field late.field

theorem NamesField.append {front : List (List Char)} {field : Field}
    (named : NamesField front field) (back : List (List Char)) :
    NamesField (front ++ back) field := by
  obtain ⟨piece, member, names⟩ := named
  exact ⟨piece, List.mem_append_left back member, names⟩

theorem NamesFirst.field {pieces : List (List Char)} {key : SortKey}
    (first : NamesFirst pieces key) : NamesField pieces key.field := by
  obtain ⟨front, piece, back, rfl, names, _⟩ := first
  exact ⟨piece, by simp, key, names, rfl⟩

theorem NamesBefore.append {front : List (List Char)} {early late : Field}
    (before : NamesBefore front early late) (back : List (List Char)) :
    NamesBefore (front ++ back) early late := by
  obtain ⟨start, rest, rfl, named, unnamed⟩ := before
  exact ⟨start, rest ++ back, List.append_assoc .., named, unnamed⟩

/-- Of two front parts of the same pieces the one goes on from the other. -/
theorem NamesBefore.asymm {pieces : List (List Char)} {early late : Field}
    (before : NamesBefore pieces early late) : ¬NamesBefore pieces late early := by
  rintro ⟨other, rest, whole, namesLate, lacksEarly⟩
  obtain ⟨front, back, rfl, namesEarly, lacksLate⟩ := before
  rcases List.append_eq_append_iff.mp whole with ⟨more, rfl, _⟩ | ⟨more, rfl, _⟩
  · exact lacksEarly (namesEarly.append more)
  · exact lacksLate (namesLate.append more)

/-- There is one list of keys at most in which the first piece wins. -/
theorem FirstWins.unique {pieces : List (List Char)} {keys others : List SortKey}
    (wins : FirstWins pieces keys) (otherWins : FirstWins pieces others) : keys = others := by
  let before (early late : SortKey) : Prop := NamesBefore pieces early.field late.field
  have : Std.Antisymm before := ⟨fun _ _ first second => absurd second first.asymm⟩
  have : Std.Irrefl before := ⟨fun _ same => same.asymm same⟩
  apply List.Pairwise.eq_of_mem_iff (r := before) wins.ordered otherWins.ordered
  intro key
  rw [wins.mem_iff, otherWins.mem_iff]

theorem namesFirst_append_singleton (pieces : List (List Char)) (piece : List Char)
    (key : SortKey) : NamesFirst (pieces ++ [piece]) key ↔
      NamesFirst pieces key ∨ Names piece key ∧ ¬NamesField pieces key.field := by
  constructor
  · rintro ⟨front, named, back, whole, names, unnamed⟩
    rcases List.eq_nil_or_concat back with rfl | ⟨others, last, rfl⟩
    · obtain ⟨rfl, same⟩ := List.append_inj' whole rfl
      rw [← List.singleton_inj.mp same] at names
      exact Or.inr ⟨names, unnamed⟩
    · rw [List.concat_eq_append, ← List.cons_append, ← List.append_assoc] at whole
      obtain ⟨rfl, _⟩ := List.append_inj' whole rfl
      exact Or.inl ⟨front, named, others, rfl, names, unnamed⟩
  · rintro (⟨front, named, back, rfl, names, unnamed⟩ | ⟨names, unnamed⟩)
    · exact ⟨front, named, back ++ [piece], by simp, names, unnamed⟩
    · exact ⟨pieces, piece, [], rfl, names, unnamed⟩

/-- A piece that names no key, or a field that was named before, adds nothing. -/
theorem FirstWins.skip {pieces : List (List Char)} {keys : List SortKey}
    (wins : FirstWins pieces keys) {piece : List Char}
    (known : ∀ key, Names piece key → NamesField pieces key.field) :
    FirstWins (pieces ++ [piece]) keys where
  mem_iff key := by
    rw [namesFirst_append_singleton, wins.mem_iff, or_iff_left]
    rintro ⟨names, unnamed⟩
    exact unnamed (known key names)
  ordered := wins.ordered.imp fun before => before.append [piece]

/-- A piece that names a new field adds its key at the end. -/
theorem FirstWins.add {pieces : List (List Char)} {keys : List SortKey}
    (wins : FirstWins pieces keys) {piece : List Char} {key : SortKey} (names : Names piece key)
    (unnamed : ¬NamesField pieces key.field) :
    FirstWins (pieces ++ [piece]) (keys ++ [key]) where
  mem_iff other := by
    have same : Names piece other ↔ other = key := by
      rw [← sortKey_trim_iff, (sortKey_trim_iff piece key).mpr names, Option.some_inj, eq_comm]
    rw [namesFirst_append_singleton, List.mem_append, List.mem_singleton, wins.mem_iff, same]
    refine or_congr_right (iff_self_and.mpr ?_)
    rintro rfl
    exact unnamed
  ordered := by
    rw [List.pairwise_append]
    refine ⟨wins.ordered.imp fun before => before.append [piece], List.pairwise_singleton .., ?_⟩
    intro early member late last
    rw [List.mem_singleton.mp last]
    exact ⟨pieces, [piece], rfl, ((wins.mem_iff early).mp member).field, unnamed⟩

/-- A field that is named is named first by some piece. -/
theorem NamesField.exists_first {pieces : List (List Char)} {field : Field}
    (named : NamesField pieces field) : ∃ key, NamesFirst pieces key ∧ key.field = field := by
  induction pieces using List.reverseRecOn with
  | nil =>
      obtain ⟨piece, member, _⟩ := named
      exact absurd member List.not_mem_nil
  | append_singleton pieces last ih =>
      by_cases earlier : NamesField pieces field
      · obtain ⟨key, first, same⟩ := ih earlier
        exact ⟨key, (namesFirst_append_singleton ..).mpr (Or.inl first), same⟩
      · obtain ⟨piece, member, key, names, rfl⟩ := named
        rcases List.mem_append.mp member with among | last
        · exact absurd ⟨piece, among, key, names, rfl⟩ earlier
        · rw [List.mem_singleton.mp last] at names
          exact ⟨key, (namesFirst_append_singleton ..).mpr (Or.inr ⟨names, earlier⟩), rfl⟩

theorem FirstWins.mem_sortFields_iff {pieces : List (List Char)} {keys : List SortKey}
    (wins : FirstWins pieces keys) (field : Field) :
    field ∈ sortFields keys ↔ NamesField pieces field := by
  constructor
  · intro member
    obtain ⟨key, among, rfl⟩ := List.mem_map.mp member
    exact ((wins.mem_iff key).mp among).field
  · intro named
    obtain ⟨key, first, rfl⟩ := named.exists_first
    exact List.mem_map_of_mem ((wins.mem_iff key).mpr first)

/-- What the pieces add to the keys, one after the other. -/
def pieceKeys (pieces : List (List Char)) : List SortKey :=
  ((pieces.map Text.trim).filterMap sortKey?).foldl addSortKey []

theorem namedSortKeys_eq (text : List Char) :
    namedSortKeys text = pieceKeys (text.splitOn ',') := rfl

theorem pieceKeys_append (front back : List (List Char)) :
    pieceKeys (front ++ back) =
      ((back.map Text.trim).filterMap sortKey?).foldl addSortKey (pieceKeys front) := by
  simp only [pieceKeys, List.map_append, List.filterMap_append, List.foldl_append]

theorem addSortKey_of_mem {keys : List SortKey} {key : SortKey}
    (member : key.field ∈ sortFields keys) : addSortKey keys key = keys := by
  obtain ⟨other, among, same⟩ := List.mem_map.mp member
  exact if_pos (List.any_eq_true.mpr ⟨other, among, decide_eq_true same⟩)

theorem addSortKey_of_not_mem {keys : List SortKey} {key : SortKey}
    (absent : key.field ∉ sortFields keys) : addSortKey keys key = keys ++ [key] := by
  refine if_neg fun present => absent ?_
  obtain ⟨other, among, same⟩ := List.any_eq_true.mp present
  exact List.mem_map.mpr ⟨other, among, of_decide_eq_true same⟩

theorem pieceKeys_firstWins (pieces : List (List Char)) : FirstWins pieces (pieceKeys pieces) := by
  induction pieces using List.reverseRecOn with
  | nil => exact ⟨fun key => by simp [pieceKeys, NamesFirst], List.Pairwise.nil⟩
  | append_singleton pieces piece ih =>
      rw [pieceKeys_append]
      cases read : sortKey? (Text.trim piece) with
      | none =>
          have unread : ∀ key, ¬Names piece key := by
            intro key names
            rw [(sortKey_trim_iff piece key).mpr names] at read
            cases read
          simpa [read] using ih.skip fun key names => absurd names (unread key)
      | some key =>
          have names := (sortKey_trim_iff piece key).mp read
          have added : ((([piece].map Text.trim).filterMap sortKey?).foldl addSortKey
              (pieceKeys pieces)) = addSortKey (pieceKeys pieces) key := by simp [read]
          rw [added]
          by_cases named : NamesField pieces key.field
          · rw [addSortKey_of_mem ((ih.mem_sortFields_iff key.field).mpr named)]
            refine ih.skip fun other otherNames => ?_
            have same := (sortKey_trim_iff piece other).mpr otherNames
            rw [read] at same
            rwa [← Option.some.inj same]
          · have absent := mt (ih.mem_sortFields_iff key.field).mp named
            rw [addSortKey_of_not_mem absent]
            exact ih.add names named

theorem namedSortKeys_eq_iff (text : List Char) (keys : List SortKey) :
    namedSortKeys text = keys ↔ FirstWins (text.splitOn ',') keys := by
  have wins := pieceKeys_firstWins (text.splitOn ',')
  rw [namedSortKeys_eq]
  constructor
  · rintro rfl
    exact wins
  · exact wins.unique

instance (pieces : List (List Char)) (field : Field) : Decidable (NamesField pieces field) :=
  decidable_of_iff _ ((pieceKeys_firstWins pieces).mem_sortFields_iff field)

theorem mem_namedSortKeys_iff (text : List Char) (field : Field) :
    field ∈ sortFields (namedSortKeys text) ↔ NamesField (text.splitOn ',') field :=
  (pieceKeys_firstWins _).mem_sortFields_iff field

theorem readSort_of_named {text : List Char} {field : Field}
    (named : NamesField (text.splitOn ',') field) : readSort text = namedSortKeys text := by
  unfold readSort
  split
  · rename_i nothing
    have member := (mem_namedSortKeys_iff text field).mpr named
    rw [nothing] at member
    exact absurd member List.not_mem_nil
  · rfl

theorem readSort_of_unnamed {text : List Char}
    (unnamed : ∀ field, ¬NamesField (text.splitOn ',') field) : readSort text = defaultSort := by
  have nothing : namedSortKeys text = [] := by
    refine List.eq_nil_iff_forall_not_mem.mpr fun key member => unnamed key.field ?_
    exact (mem_namedSortKeys_iff text key.field).mp (List.mem_map_of_mem member)
  rw [readSort, nothing]

theorem pieceKeys_insert {front : List (List Char)} {piece : List Char}
    (known : ∀ key, Names piece key → NamesField front key.field) (back : List (List Char)) :
    pieceKeys (front ++ piece :: back) = pieceKeys (front ++ back) := by
  have skipped : pieceKeys (front ++ [piece]) = pieceKeys front :=
    (pieceKeys_firstWins _).unique ((pieceKeys_firstWins front).skip known)
  rw [List.append_cons, pieceKeys_append, skipped, ← pieceKeys_append]

theorem readSort_insert {left right : List Char} {front back : List (List Char)}
    {piece : List Char} (without : left.splitOn ',' = front ++ back)
    (withPiece : right.splitOn ',' = front ++ piece :: back)
    (known : ∀ key, Names piece key → NamesField front key.field) :
    readSort right = readSort left := by
  have same : namedSortKeys right = namedSortKeys left := by
    rw [namedSortKeys_eq, namedSortKeys_eq, without, withPiece, pieceKeys_insert known]
  rw [readSort, readSort, same]

/-- The keys on fields that the others have no key on. -/
def keysBeside (keys added : List SortKey) : List SortKey :=
  added.filter fun key => key.field ∉ sortFields keys

theorem mem_sortFields_append_beside (keys added : List SortKey) (field : Field) :
    field ∈ sortFields (keys ++ keysBeside keys added) ↔
      field ∈ sortFields keys ∨ field ∈ sortFields added := by
  rw [sortFields, List.map_append, List.mem_append]
  refine or_congr_right' fun unknown => ?_
  simp only [keysBeside, sortFields, List.mem_map, List.mem_filter, decide_eq_true_eq]
  constructor
  · rintro ⟨key, ⟨among, _⟩, same⟩
    exact ⟨key, among, same⟩
  · rintro ⟨key, among, rfl⟩
    exact ⟨key, ⟨among, by simpa [sortFields] using unknown⟩, rfl⟩

theorem addSortKey_append_beside (keys added : List SortKey) (key : SortKey) :
    addSortKey (keys ++ keysBeside keys added) key =
      keys ++ keysBeside keys (addSortKey added key) := by
  have among := mem_sortFields_append_beside keys added key.field
  by_cases again : key.field ∈ sortFields added
  · rw [addSortKey_of_mem (among.mpr (Or.inr again)), addSortKey_of_mem again]
  · rw [addSortKey_of_not_mem again]
    by_cases known : key.field ∈ sortFields keys
    · rw [addSortKey_of_mem (among.mpr (Or.inl known))]
      simp [keysBeside, known]
    · have absent := mt among.mp (not_or.mpr ⟨known, again⟩)
      rw [addSortKey_of_not_mem absent]
      simp [keysBeside, known]

/-- Keys are added to others as they would be to none, but for those on fields that are there. -/
theorem foldl_addSortKey (keys others : List SortKey) :
    others.foldl addSortKey keys = keys ++ keysBeside keys (others.foldl addSortKey []) := by
  induction others using List.reverseRecOn with
  | nil => simp [keysBeside]
  | append_singleton others key ih =>
      rw [List.foldl_append, List.foldl_append, ih]
      exact addSortKey_append_beside keys _ key

theorem namedSortKeys_append (front back : List Char) :
    namedSortKeys (front ++ ',' :: back) = namedSortKeys front ++
      (namedSortKeys back).filter fun key => ¬NamesField (front.splitOn ',') key.field := by
  rw [namedSortKeys_eq, List.splitOn_append_cons_self, pieceKeys_append, foldl_addSortKey]
  congr 1
  apply List.filter_congr
  intro key _
  rw [decide_eq_decide, not_iff_not]
  exact mem_namedSortKeys_iff front key.field

theorem NamesField.append_text {front : List Char} {field : Field}
    (named : NamesField (front.splitOn ',') field) (back : List Char) :
    NamesField ((front ++ ',' :: back).splitOn ',') field := by
  rw [List.splitOn_append_cons_self]
  exact named.append _

/-- A text of sort fields comes to the keys that are first to name their field, in the order in
which they do, and to the default only if no piece names a field. Pieces that name nothing, or a
field that was named before, make no difference. What stands behind a comma adds the keys it would
come to by itself, but for those on fields that are named in front of it. -/
theorem sort_firstWins :
    (∀ text keys, namedSortKeys text = keys ↔ FirstWins (text.splitOn ',') keys) ∧
    (∀ text, (∃ field, NamesField (text.splitOn ',') field) →
      readSort text = namedSortKeys text) ∧
    (∀ text, (∀ field, ¬NamesField (text.splitOn ',') field) →
      readSort text = [⟨.createdAt, .ascending⟩]) ∧
    (∀ left right front piece back, left.splitOn ',' = front ++ back →
      right.splitOn ',' = front ++ piece :: back →
      (∀ key, Names piece key → NamesField front key.field) → readSort right = readSort left) ∧
    ∀ front back, (∃ field, NamesField (front.splitOn ',') field) →
      readSort (front ++ ',' :: back) = readSort front ++
        (namedSortKeys back).filter fun key => ¬NamesField (front.splitOn ',') key.field := by
  refine ⟨namedSortKeys_eq_iff, ?_, fun text => readSort_of_unnamed, ?_, ?_⟩
  · rintro text ⟨field, named⟩
    exact readSort_of_named named
  · intro left right front piece back
    exact readSort_insert
  · rintro front back ⟨field, named⟩
    rw [readSort_of_named named, readSort_of_named (named.append_text back),
      namedSortKeys_append]

/-- Of two directions the first counts, and a blank behind a minus makes a name unknown. -/
theorem sort_firstWins_ratings :
    NamesField ("- name, -rating".toList.splitOn ',') .rating ∧
      readSort "- name, -rating".toList = [⟨.rating, .descending⟩] ∧
      readSort "--name,".toList = [⟨.createdAt, .ascending⟩] ∧
      readSort "- name, -rating,rating".toList = readSort "- name, -rating".toList ∧
      readSort ("- name, -rating".toList ++ ',' :: "name,rating".toList) =
        [⟨.rating, .descending⟩, ⟨.name, .ascending⟩] := by
  obtain ⟨-, named, unnamed, inserted, appended⟩ := sort_firstWins
  have rating : NamesField ("- name, -rating".toList.splitOn ',') .rating := by decide
  refine ⟨rating, ?_, ?_, ?_, ?_⟩
  · rw [named _ ⟨.rating, rating⟩]
    decide
  · apply unnamed
    intro field
    cases field <;> decide
  · refine inserted _ _ ["- name".toList, " -rating".toList] "rating".toList [] (by decide)
      (by decide) ?_
    intro key names
    have read := (sortKey_trim_iff "rating".toList key).mpr names
    cases Option.some.inj read
    decide
  · rw [appended _ _ ⟨.rating, rating⟩]
    decide

end Query

end ProductCatalog
