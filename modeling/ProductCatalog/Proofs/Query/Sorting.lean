import Mathlib.Data.List.Nodup
import ProductCatalog.Query.Policy

/-! The keys that order products. No field is among them twice, and the identity is among them once.
-/

namespace ProductCatalog.Query

def sortFields (keys : List SortKey) : List Field :=
  keys.map (·.field)

theorem addSortKey_nodup {keys : List SortKey} (distinct : (sortFields keys).Nodup)
    (key : SortKey) : (sortFields (addSortKey keys key)).Nodup := by
  unfold addSortKey
  split
  · exact distinct
  · rename_i named
    have absent : key.field ∉ sortFields keys := by
      intro member
      obtain ⟨other, among, same⟩ := List.mem_map.mp member
      exact named (List.any_eq_true.mpr ⟨other, among, decide_eq_true same⟩)
    rw [sortFields, List.map_append, List.nodup_append]
    refine ⟨distinct, List.nodup_singleton _, ?_⟩
    rintro field member last only rfl
    rw [List.mem_singleton.mp only] at member
    exact absent member

theorem foldl_addSortKey_nodup {keys : List SortKey} (distinct : (sortFields keys).Nodup)
    (others : List SortKey) : (sortFields (others.foldl addSortKey keys)).Nodup := by
  induction others generalizing keys with
  | nil => exact distinct
  | cons key rest ih => exact ih (addSortKey_nodup distinct key)

theorem readSort_nodup (text : List Char) : (sortFields (readSort text)).Nodup := by
  have nothing : (sortFields []).Nodup := List.nodup_nil
  have named : (sortFields (namedSortKeys text)).Nodup := foldl_addSortKey_nodup nothing _
  unfold readSort
  split
  · decide
  · exact named

theorem sort_nodup (parameters : Parameters) :
    (sortFields (Policy.ofParameters parameters).sort).Nodup := by
  simp only [Policy.ofParameters]
  cases present parameters.sort with
  | none => decide
  | some text => exact readSort_nodup text.toList

theorem orderKeys_nodup {policy : Policy} (distinct : (sortFields policy.sort).Nodup) :
    (sortFields policy.orderKeys).Nodup := by
  unfold Policy.orderKeys
  split
  · exact distinct
  · rename_i unnamed
    have added := addSortKey_nodup distinct ⟨.id, .ascending⟩
    rw [addSortKey, if_neg (by simpa using unnamed)] at added
    exact added

theorem id_mem_orderKeys (policy : Policy) : Field.id ∈ sortFields policy.orderKeys := by
  unfold Policy.orderKeys
  split
  · rename_i named
    obtain ⟨key, member, isId⟩ := List.any_eq_true.mp named
    exact List.mem_map.mpr ⟨key, member, of_decide_eq_true isId⟩
  · simp [sortFields]

end ProductCatalog.Query
