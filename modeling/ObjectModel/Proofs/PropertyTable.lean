import ObjectModel.PropertyTable
import ObjectModel.Proofs.OrderedMap

/-!
# Keys in the order of scripts

`keysInOrder` lists every key of a table once: it is the list of keys with the array indices moved
to the front (`keysInOrder_perm`).  What holds of the list of keys up to order holds of it.
-/

namespace ObjectModel.PropertyTable

/-! ## All keys -/

/-- Sorting the array indices loses none of them. -/
theorem sortedIndices_perm (keys : List PropertyKey) :
    ((sortedIndices keys).map Prod.snd).Perm (keys.filter PropertyKey.isArrayIndex) := by
  have indices : (keys.filterMap fun key => key.arrayIndex?.map (·, key)).map Prod.snd =
      keys.filter PropertyKey.isArrayIndex := by
    induction keys with
    | nil => rfl
    | cons key rest ih =>
      cases index : key.arrayIndex? <;>
        simp [index, PropertyKey.isArrayIndex, ih]
  rw [← indices]
  exact (List.mergeSort_perm _ _).map Prod.snd

theorem keysInOrder_perm (t : PropertyTable) : t.keysInOrder.Perm t.keys :=
  ((sortedIndices_perm t.keys).append_right _).trans
    (List.filter_append_perm PropertyKey.isArrayIndex t.keys)

theorem keysInOrder_nodup (t : PropertyTable) : t.keysInOrder.Nodup :=
  t.keysInOrder_perm.nodup_iff.2 t.keys_nodup

theorem mem_keysInOrder (t : PropertyTable) (key : PropertyKey) :
    key ∈ t.keysInOrder ↔ ∃ p, t.get? key = some p := by
  rw [t.keysInOrder_perm.mem_iff, OrderedMap.mem_keys_iff]

/-! ## Enumerable keys -/

theorem mem_enumerableKeys (t : PropertyTable) (key : PropertyKey) :
    key ∈ t.enumerableKeys ↔ ∃ p, t.get? key = some p ∧ p.isEnumerable = true := by
  rw [enumerableKeys, List.mem_filter, mem_keysInOrder, Option.any_eq_true]
  constructor
  · rintro ⟨-, p, owned, enumerable⟩
    exact ⟨p, owned, enumerable⟩
  · rintro ⟨p, owned, enumerable⟩
    exact ⟨⟨p, owned⟩, p, owned, enumerable⟩

theorem enumerableKeys_sublist (t : PropertyTable) : t.enumerableKeys.Sublist t.keysInOrder :=
  List.filter_sublist

end ObjectModel.PropertyTable
