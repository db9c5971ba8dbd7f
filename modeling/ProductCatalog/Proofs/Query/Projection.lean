import Mathlib.Data.List.Induction
import ProductCatalog.Product.Row
import ProductCatalog.Proofs.Query.Filters
import ProductCatalog.Proofs.Query.Rearrangement
import ProductCatalog.Proofs.Query.SortText

/-! Which fields of a product are shown. A text of fields restricts the record of the whole product
and does nothing else to it; a list of fields gives each of them once. -/

namespace ProductCatalog

theorem eraseDups_append_of_mem {α : Type} [DecidableEq α] {front : List α} {last : α}
    (member : last ∈ front) : (front ++ [last]).eraseDups = front.eraseDups := by
  simp [List.eraseDups_append, List.removeAll, member]

theorem eraseDups_append_of_not_mem {α : Type} [DecidableEq α] {front : List α} {last : α}
    (absent : last ∉ front) : (front ++ [last]).eraseDups = front.eraseDups ++ [last] := by
  simp [List.eraseDups_append, List.removeAll, absent, List.eraseDups_cons]

/-- What is left when repetitions are erased is in the order of the first places. -/
theorem eraseDups_ordered {α : Type} [DecidableEq α] (items : List α) :
    items.eraseDups.Pairwise fun early late => items.idxOf early < items.idxOf late := by
  induction items using List.reverseRecOn with
  | nil => exact List.Pairwise.nil
  | append_singleton front last ih =>
      have place {item : α} (member : item ∈ front) :
          (front ++ [last]).idxOf item = front.idxOf item := by
        rw [List.idxOf_append, if_pos member]
      have kept : front.eraseDups.Pairwise fun early late =>
          (front ++ [last]).idxOf early < (front ++ [last]).idxOf late := by
        refine ih.imp_of_mem fun early late before => ?_
        rwa [place (List.mem_eraseDups.mp early), place (List.mem_eraseDups.mp late)]
      by_cases again : last ∈ front
      · rwa [eraseDups_append_of_mem again]
      · rw [eraseDups_append_of_not_mem again, List.pairwise_append]
        refine ⟨kept, List.pairwise_singleton .., ?_⟩
        intro early member late only
        rw [List.mem_singleton.mp only, place (List.mem_eraseDups.mp member), List.idxOf_append,
          if_neg again]
        have within := List.idxOf_lt_length_of_mem (List.mem_eraseDups.mp member)
        omega

theorem eraseDups_of_nodup {α : Type} [DecidableEq α] {items : List α} (distinct : items.Nodup) :
    items.eraseDups = items := by
  induction items using List.reverseRecOn with
  | nil => rfl
  | append_singleton front last ih =>
      obtain ⟨frontDistinct, _, apart⟩ := List.nodup_append.mp distinct
      have absent : last ∉ front := fun member => apart last member last (by simp) rfl
      rw [eraseDups_append_of_not_mem absent, ih frontDistinct]

theorem Field.all_nodup : Field.all.Nodup := by decide

theorem Field.mem_all (field : Field) : field ∈ Field.all := by
  cases field <;> decide

namespace Row

variable (row : Row)

theorem project_of_nodup {fields : List Field} (distinct : fields.Nodup) :
    row.project fields = fields.map fun field => (field, row.value field) := by
  rw [project, eraseDups_of_nodup distinct]

theorem fields_project (fields : List Field) :
    (row.project fields).map (·.1) = fields.eraseDups := by
  rw [project, List.map_map]
  exact List.map_id _

theorem mem_project_iff (fields : List Field) (entry : Field × Json.Value) :
    entry ∈ row.project fields ↔ entry.1 ∈ fields ∧ entry.2 = row.value entry.1 := by
  obtain ⟨field, value⟩ := entry
  simp only [project, List.mem_map, List.mem_eraseDups, Prod.mk.injEq]
  constructor
  · rintro ⟨_, member, rfl, rfl⟩
    exact ⟨member, rfl⟩
  · rintro ⟨member, rfl⟩
    exact ⟨field, member, rfl, rfl⟩

theorem project_sublist {fields : List Field} (part : fields.Sublist Field.all) :
    (row.project fields).Sublist (row.project Field.all) := by
  rw [project_of_nodup row (Field.all_nodup.sublist part), project_of_nodup row Field.all_nodup]
  exact part.map _

end Row

namespace Query

/-- One of the pieces of a text names the field. Blanks around a piece do not count. -/
def IsNamed (text : List Char) (field : Field) : Prop :=
  field.label.toList ∈ Text.trimmedPieces ',' text

/-- The field is named, or none is. -/
def IsShown (text : List Char) (field : Field) : Prop :=
  IsNamed text field ∨ ∀ other, ¬IsNamed text other

/-- The name of no field. -/
def Unknown (name : List Char) : Prop :=
  ∀ field : Field, name ≠ field.label.toList

theorem mem_namedFields_iff (text : List Char) (field : Field) :
    field ∈ namedFields text ↔ IsNamed text field := by
  simp only [namedFields, List.mem_filterMap, Field.ofLabel_ofList_eq_some_iff]
  constructor
  · rintro ⟨name, member, rfl⟩
    exact member
  · intro member
    exact ⟨_, member, rfl⟩

theorem namedFields_eq_nil_iff (text : List Char) :
    namedFields text = [] ↔ ∀ field, ¬IsNamed text field := by
  simp only [List.eq_nil_iff_forall_not_mem, mem_namedFields_iff]

theorem readProjection_of_unnamed {text : List Char} (nothing : namedFields text = []) :
    readProjection text = .all := by
  rw [readProjection, nothing]

theorem readProjection_of_named {text : List Char} (something : namedFields text ≠ []) :
    readProjection text = .only (Field.all.filter (· ∈ namedFields text)) := by
  unfold readProjection
  split
  · rename_i nothing
    exact absurd nothing something
  · rfl

theorem readProjection_sublist (text : List Char) :
    (readProjection text).fields.Sublist Field.all := by
  by_cases nothing : namedFields text = []
  · rw [readProjection_of_unnamed nothing]
    exact List.Sublist.refl _
  · rw [readProjection_of_named nothing]
    exact List.filter_sublist

theorem mem_readProjection_iff (text : List Char) (field : Field) :
    field ∈ (readProjection text).fields ↔ IsShown text field := by
  by_cases nothing : namedFields text = []
  · rw [readProjection_of_unnamed nothing]
    exact iff_of_true field.mem_all (Or.inr ((namedFields_eq_nil_iff text).mp nothing))
  · have some_named := mt (namedFields_eq_nil_iff text).mpr nothing
    rw [readProjection_of_named nothing, Projection.fields, List.mem_filter, decide_eq_true_eq,
      mem_namedFields_iff, and_iff_right field.mem_all, IsShown, or_iff_left some_named]

theorem isNamed_rearranged {left right : List Char}
    (rearranged : Rearranged Unknown (Text.trimmedPieces ',' left) (Text.trimmedPieces ',' right))
    (field : Field) : IsNamed left field ↔ IsNamed right field :=
  rearranged.mem_iff fun unknown => unknown field rfl

theorem readProjection_congr {left right : List Char}
    (same : ∀ field, IsNamed left field ↔ IsNamed right field) :
    readProjection left = readProjection right := by
  have fields (field : Field) : field ∈ namedFields left ↔ field ∈ namedFields right := by
    rw [mem_namedFields_iff, mem_namedFields_iff, same]
  by_cases nothing : namedFields left = []
  · have nothingRight : namedFields right = [] := by
      rw [List.eq_nil_iff_forall_not_mem] at nothing ⊢
      exact fun field member => nothing field ((fields field).mpr member)
    rw [readProjection_of_unnamed nothing, readProjection_of_unnamed nothingRight]
  · have somethingRight : namedFields right ≠ [] := by
      obtain ⟨field, member⟩ := List.exists_mem_of_ne_nil _ nothing
      exact List.ne_nil_of_mem ((fields field).mp member)
    rw [readProjection_of_named nothing, readProjection_of_named somethingRight]
    simp only [fields]

theorem projection_ofParameters {parameters : Parameters} {text : String}
    (given : parameters.fields = some text) :
    (Policy.ofParameters parameters).projection = readProjection text.toList := by
  simp only [Policy.ofParameters, given]
  by_cases empty : text = ""
  · subst empty
    decide
  · rw [(present_eq_some_iff (some text) text).mpr ⟨rfl, empty⟩]
    rfl

/-- A text of fields leaves of the whole record the fields that a piece names, or all if none is
named, with their values and in their order. The order of the pieces, repeated pieces and unknown
names make no difference. Of any list of fields each is given once, at its first place, with its
value in the whole record. -/
theorem projection_restricts (row : Row) :
    (row.project Field.all).map (·.1) = Field.all ∧
    (∀ (parameters : Parameters) (text : String), parameters.fields = some text →
      (row.project (Policy.ofParameters parameters).projection.fields).Sublist
          (row.project Field.all) ∧
        ∀ field, field ∈ (row.project (Policy.ofParameters parameters).projection.fields).map (·.1) ↔
          IsShown text.toList field) ∧
    (∀ (parameters others : Parameters) (left right : String), parameters.fields = some left →
      others.fields = some right →
      Rearranged Unknown (Text.trimmedPieces ',' left.toList)
        (Text.trimmedPieces ',' right.toList) →
      row.project (Policy.ofParameters parameters).projection.fields =
        row.project (Policy.ofParameters others).projection.fields) ∧
    ∀ fields : List Field,
      ((row.project fields).map (·.1)).Pairwise
          (fun early late => fields.idxOf early < fields.idxOf late) ∧
        (∀ field, field ∈ (row.project fields).map (·.1) ↔ field ∈ fields) ∧
        ∀ entry ∈ row.project fields, entry ∈ row.project Field.all := by
  refine ⟨?_, ?_, ?_, ?_⟩
  · rw [row.fields_project, eraseDups_of_nodup Field.all_nodup]
  · intro parameters text given
    rw [projection_ofParameters given]
    refine ⟨row.project_sublist (readProjection_sublist _), fun field => ?_⟩
    rw [row.fields_project, List.mem_eraseDups, mem_readProjection_iff]
  · intro parameters others left right givenLeft givenRight rearranged
    rw [projection_ofParameters givenLeft, projection_ofParameters givenRight,
      readProjection_congr (isNamed_rearranged rearranged)]
  · intro fields
    rw [row.fields_project]
    refine ⟨eraseDups_ordered fields, fun field => List.mem_eraseDups, fun entry member => ?_⟩
    obtain ⟨_, value⟩ := (row.mem_project_iff fields entry).mp member
    exact (row.mem_project_iff Field.all entry).mpr ⟨entry.1.mem_all, value⟩

def shelfRow : Row where
  id := 3
  name := "Shelf"
  price := 49.5
  rating := 4.5
  company := "ikea"
  featured := false
  createdAt := 0

/-- A second price, a blank and a name that is not known do not count. -/
theorem projection_restricts_shelf :
    shelfRow.project (Policy.ofParameters { fields := some "price,bogus, name,price" }).projection.fields
        = shelfRow.project (Policy.ofParameters { fields := some "name,price" }).projection.fields ∧
      (shelfRow.project (Policy.ofParameters { fields := some "name,price" }).projection.fields).Sublist
        (shelfRow.project Field.all) := by
  obtain ⟨-, part, same, -⟩ := projection_restricts shelfRow
  have pieces : Rearranged Unknown (Text.trimmedPieces ',' "name,price".toList)
      (Text.trimmedPieces ',' "price,bogus, name,price".toList) := by
    have unknown : Unknown "bogus".toList := by
      intro field
      cases field <;> decide
    have repeated : Rearranged Unknown ([] ++ ["name".toList, "price".toList])
        ([] ++ "price".toList :: ["name".toList, "price".toList]) :=
      Rearranged.repeated (by decide)
    have inserted : Rearranged Unknown (["price".toList] ++ ["name".toList, "price".toList])
        (["price".toList] ++ "bogus".toList :: ["name".toList, "price".toList]) :=
      Rearranged.inserted unknown
    exact repeated.trans inserted
  exact ⟨(same _ _ _ _ rfl rfl pieces).symm, (part _ _ rfl).1⟩

end Query

end ProductCatalog
