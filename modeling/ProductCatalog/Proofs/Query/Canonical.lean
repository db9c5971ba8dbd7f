import ProductCatalog.Proofs.Query.Projection
import ProductCatalog.Proofs.Query.WrittenNumber

/-! The policies that parameters come to. Whatever a client writes, the policy is in canonical form,
and every policy in that form can be written. -/

namespace ProductCatalog.Query

/-- No field orders twice, the fields that are shown are in the order of the schema, each once, and
pages are counted from one. -/
structure Policy.Canonical (policy : Policy) : Prop where
  some_key : policy.sort ≠ []
  distinct : (sortFields policy.sort).Nodup
  projection : ∀ fields, policy.projection = .only fields →
    fields ≠ [] ∧ fields.Sublist Field.all
  page : 1 ≤ policy.page.toNat ∧ policy.page.toNat ≤ 4294967295
  limit : 1 ≤ policy.limit.toNat ∧ policy.limit.toNat ≤ 4294967295

/-- Names with commas between them. -/
def writeNames (names : List (List Char)) : String :=
  String.ofList ([','].intercalate names)

def writeSort (keys : List SortKey) : String :=
  writeNames (keys.map SortKey.text)

/-- All fields are shown where none are asked for. -/
def writeProjection : Projection → Option String
  | .all => none
  | .only fields => some (writeNames (fields.map fun field => field.label.toList))

/-- The parameters that ask for a policy, beside others that have no part in it. -/
def Policy.toParameters (policy : Policy) (others : Parameters) : Parameters :=
  { others with
    sort := some (writeSort policy.sort)
    fields := writeProjection policy.projection
    page := some (written policy.page)
    limit := some (written policy.limit) }

/-- A name that is left as it is when a text is split at commas and its pieces are trimmed. -/
structure IsName (name : List Char) : Prop where
  some_character : name ≠ []
  plain : ∀ c ∈ name, Text.isBlank c = false ∧ c ≠ ','

theorem IsName.of_all {name : List Char} (some_character : name ≠ [])
    (plain : name.all (fun c => !Text.isBlank c && c != ',') = true) : IsName name := by
  refine ⟨some_character, fun c member => ?_⟩
  simpa using List.all_eq_true.mp plain c member

theorem isName_text (key : SortKey) : IsName key.text := by
  obtain ⟨field, direction⟩ := key
  cases direction <;> cases field <;> exact .of_all (by decide) (by decide)

theorem isName_label (field : Field) : IsName field.label.toList := by
  cases field <;> exact .of_all (by decide) (by decide)

theorem splitOn_writeNames {names : List (List Char)} (each : ∀ name ∈ names, IsName name)
    (some_name : names ≠ []) : (writeNames names).toList.splitOn ',' = names := by
  rw [writeNames, String.toList_ofList]
  refine List.splitOn_intercalate _ (fun name member comma => ?_) some_name
  exact ((each name member).plain ',' comma).2 rfl

theorem trimmedPieces_writeNames {names : List (List Char)} (each : ∀ name ∈ names, IsName name)
    (some_name : names ≠ []) : Text.trimmedPieces ',' (writeNames names).toList = names := by
  rw [Text.trimmedPieces, splitOn_writeNames each some_name]
  refine (List.map_congr_left fun name member => ?_).trans (List.map_id names)
  exact trim_of_not_blank fun c among => ((each name member).plain c among).1

theorem present_writeNames {names : List (List Char)} (each : ∀ name ∈ names, IsName name)
    (some_name : names ≠ []) : present (some (writeNames names)) = some (writeNames names) := by
  refine (present_eq_some_iff _ _).mpr ⟨rfl, fun empty => ?_⟩
  have pieces := splitOn_writeNames each some_name
  rw [empty] at pieces
  exact (each [] (pieces ▸ List.mem_singleton_self [])).some_character rfl

theorem foldl_addSortKey_of_nodup {keys : List SortKey} (distinct : (sortFields keys).Nodup) :
    keys.foldl addSortKey [] = keys := by
  induction keys using List.reverseRecOn with
  | nil => rfl
  | append_singleton keys key ih =>
      rw [sortFields, List.map_append, List.nodup_append] at distinct
      obtain ⟨earlier, _, apart⟩ := distinct
      have absent : key.field ∉ sortFields keys := fun member => apart _ member _ (by simp) rfl
      rw [List.foldl_append, ih earlier]
      exact addSortKey_of_not_mem absent

theorem readSort_writeSort {keys : List SortKey} (some_key : keys ≠ [])
    (distinct : (sortFields keys).Nodup) : readSort (writeSort keys).toList = keys := by
  have each : ∀ name ∈ keys.map SortKey.text, IsName name := by
    rw [List.forall_mem_map]
    exact fun key _ => isName_text key
  have read : sortKey? ∘ SortKey.text = some :=
    funext fun key => (sortKey_eq_some_iff key.text key).mpr rfl
  have named : namedSortKeys (writeSort keys).toList = keys := by
    rw [namedSortKeys, writeSort, trimmedPieces_writeNames each (by simpa using some_key),
      List.filterMap_map, read, List.filterMap_some, foldl_addSortKey_of_nodup distinct]
  unfold readSort
  rw [named]
  split
  · exact absurd rfl some_key
  · rfl

/-- A part of the schema is determined by its fields. -/
theorem filter_mem_of_sublist {fields : List Field} (part : fields.Sublist Field.all) :
    Field.all.filter (· ∈ fields) = fields := by
  let before (early late : Field) : Prop := Field.all.idxOf early < Field.all.idxOf late
  have : Std.Antisymm before := ⟨fun _ _ first second => absurd second (Nat.lt_asymm first)⟩
  have : Std.Irrefl before := ⟨fun _ => Nat.lt_irrefl _⟩
  have ordered : Field.all.Pairwise before := by
    have first_places := eraseDups_ordered Field.all
    rwa [eraseDups_of_nodup Field.all_nodup] at first_places
  refine List.Pairwise.eq_of_mem_iff (ordered.sublist List.filter_sublist) (ordered.sublist part) ?_
  intro field
  simp [field.mem_all]

theorem readProjection_writeNames {fields : List Field} (some_field : fields ≠ [])
    (part : fields.Sublist Field.all) :
    readProjection (writeNames (fields.map fun field => field.label.toList)).toList =
      .only fields := by
  have each : ∀ name ∈ fields.map fun field => field.label.toList, IsName name := by
    rw [List.forall_mem_map]
    exact fun field _ => isName_label field
  have read : ((fun name => Field.ofLabel? (String.ofList name)) ∘ fun field : Field =>
      field.label.toList) = some :=
    funext fun field => (Field.ofLabel_ofList_eq_some_iff _ field).mpr rfl
  have named : namedFields (writeNames (fields.map fun field => field.label.toList)).toList =
      fields := by
    rw [namedFields, trimmedPieces_writeNames each (by simpa using some_field),
      List.filterMap_map, read, List.filterMap_some]
  rw [readProjection_of_named (by rwa [named]), named, filter_mem_of_sublist part]

theorem sort_toParameters {policy : Policy} (canonical : policy.Canonical) (others : Parameters) :
    (Policy.ofParameters (policy.toParameters others)).sort = policy.sort := by
  have given : present (some (writeSort policy.sort)) = some (writeSort policy.sort) := by
    refine present_writeNames ?_ (by simpa using canonical.some_key)
    rw [List.forall_mem_map]
    exact fun key _ => isName_text key
  have read := readSort_writeSort canonical.some_key canonical.distinct
  simp only [Policy.ofParameters, Policy.toParameters, given, Option.map_some, Option.getD_some,
    read]

theorem projection_toParameters {policy : Policy} (canonical : policy.Canonical)
    (others : Parameters) :
    (Policy.ofParameters (policy.toParameters others)).projection = policy.projection := by
  cases shown : policy.projection with
  | all =>
      simp only [Policy.ofParameters, Policy.toParameters, shown]
      rfl
  | only fields =>
      obtain ⟨some_field, part⟩ := canonical.projection fields shown
      rw [← readProjection_writeNames some_field part]
      apply projection_ofParameters
      rw [Policy.toParameters, shown]
      rfl

theorem ne_zero_of_one_le {number : UInt32} (least : 1 ≤ number.toNat) : number ≠ 0 := by
  rintro rfl
  exact absurd least (by decide)

/-- A policy in canonical form is read back from the parameters that ask for it. -/
theorem ofParameters_toParameters {policy : Policy} (canonical : policy.Canonical)
    (others : Parameters) : Policy.ofParameters (policy.toParameters others) = policy := by
  have sort := sort_toParameters canonical others
  have projection := projection_toParameters canonical others
  have page : (Policy.ofParameters (policy.toParameters others)).page = policy.page :=
    readPositive_written (ne_zero_of_one_le canonical.page.1) 1
  have limit : (Policy.ofParameters (policy.toParameters others)).limit = policy.limit :=
    readPositive_written (ne_zero_of_one_le canonical.limit.1) 10
  generalize Policy.ofParameters (policy.toParameters others) = read at sort projection page limit
  cases read
  cases policy
  exact (Policy.mk.injEq ..).mpr ⟨sort, projection, page, limit⟩

theorem readSort_ne_nil (text : List Char) : readSort text ≠ [] := by
  unfold readSort
  split
  · exact List.cons_ne_nil _ _
  · rename_i some_key
    exact some_key

theorem readProjection_canonical {text : List Char} {fields : List Field}
    (read : readProjection text = .only fields) : fields ≠ [] ∧ fields.Sublist Field.all := by
  have part := readProjection_sublist text
  rw [read] at part
  refine ⟨?_, part⟩
  rintro rfl
  by_cases nothing : namedFields text = []
  · rw [readProjection_of_unnamed nothing] at read
    cases read
  · rw [readProjection_of_named nothing] at read
    obtain ⟨field, member⟩ := List.exists_mem_of_ne_nil _ nothing
    have kept : field ∈ Field.all.filter (· ∈ namedFields text) := by
      simpa [field.mem_all] using member
    rw [Projection.only.inj read] at kept
    exact List.not_mem_nil kept

theorem readPositive_bounds (value : Option String) {default : UInt32} (positive : default ≠ 0) :
    1 ≤ (readPositive value default).toNat ∧
      (readPositive value default).toNat ≤ 4294967295 := by
  have word := (readPositive value default).toNat_lt
  refine ⟨?_, by omega⟩
  have nonzero : readPositive value default ≠ 0 := by
    unfold readPositive
    split
    · exact positive
    · split
      · exact positive
      · rename_i nonzero
        exact nonzero
  exact Nat.one_le_iff_ne_zero.mpr fun zero => nonzero (UInt32.toNat_inj.mp zero)

theorem ofParameters_canonical (parameters : Parameters) :
    (Policy.ofParameters parameters).Canonical where
  some_key := by
    simp only [Policy.ofParameters]
    cases present parameters.sort with
    | none => exact List.cons_ne_nil _ _
    | some text => exact readSort_ne_nil text.toList
  distinct := sort_nodup parameters
  projection := by
    intro fields shown
    simp only [Policy.ofParameters] at shown
    cases asked : present parameters.fields with
    | none =>
        rw [asked] at shown
        cases shown
    | some text =>
        rw [asked] at shown
        exact readProjection_canonical shown
  page := readPositive_bounds _ (by decide)
  limit := readPositive_bounds _ (by decide)

/-- The policies in canonical form are those that parameters come to, and each comes from the
parameters that ask for it, whatever else they ask for. -/
theorem policies_canonical :
    (∀ parameters : Parameters, (Policy.ofParameters parameters).Canonical) ∧
    ∀ (policy : Policy) (others : Parameters),
      policy.Canonical ↔ Policy.ofParameters (policy.toParameters others) = policy := by
  refine ⟨ofParameters_canonical, fun policy others => ?_⟩
  constructor
  · intro canonical
    exact ofParameters_toParameters canonical others
  · intro read
    rw [← read]
    exact ofParameters_canonical _

example : Policy.toParameters
    ⟨[⟨.price, .descending⟩, ⟨.name, .ascending⟩], .only [.name, .createdAt], 3, 10⟩
    { name := some "lamp" } =
      { name := some "lamp", sort := some "-price,name", fields := some "name,createdAt",
        page := some "3", limit := some "10" } := by decide

end ProductCatalog.Query
