import ObjectModel.OrderedMap

/-!
# Ordered maps through their view

The view of an ordered map is the list of its keys together with `get?`.  `ext_view` says that the
view determines the map; everything else here reads a fact about entries as a fact about the view.
-/

namespace ObjectModel.OrderedMap

variable {κ α : Type} [DecidableEq κ]

theorem lookup_eq_some_iff_mem {key : κ} {value : α} {es : List (κ × α)}
    (nodup : (es.map Prod.fst).Nodup) : lookup key es = some value ↔ (key, value) ∈ es := by
  induction es with
  | nil => simp [lookup]
  | cons e rest ih =>
    obtain ⟨k, v⟩ := e
    rw [List.map_cons, List.nodup_cons] at nodup
    by_cases same : k = key
    · subst same
      have absent : (k, value) ∉ rest := fun member =>
        nodup.1 (List.mem_map.2 ⟨_, member, rfl⟩)
      simp [lookup, absent, eq_comm]
    · simp [lookup, same, Ne.symm same, ih nodup.2]

theorem get?_eq_some_iff_mem (m : OrderedMap κ α) (key : κ) (value : α) :
    m.get? key = some value ↔ (key, value) ∈ m.entries :=
  lookup_eq_some_iff_mem m.nodup

theorem mem_values_iff (m : OrderedMap κ α) (value : α) :
    value ∈ m.values ↔ ∃ key, m.get? key = some value := by
  simp only [values, List.mem_map, get?_eq_some_iff_mem, Prod.exists, exists_eq_right]

/-- A test passes on all values exactly if it passes on whatever a look-up finds. -/
theorem all_values_iff (m : OrderedMap κ α) (test : α → Bool) :
    m.values.all test = true ↔ ∀ key value, m.get? key = some value → test value = true := by
  simp only [List.all_eq_true, mem_values_iff]
  exact ⟨fun all key value found => all value ⟨key, found⟩,
    fun all value ⟨key, found⟩ => all key value found⟩

theorem mem_keys_iff (m : OrderedMap κ α) (key : κ) :
    key ∈ m.keys ↔ ∃ value, m.get? key = some value := by
  rw [← contains_iff_mem_keys, contains, Option.isSome_iff_exists]

/-- Two lists of entries with the same keys, none twice, and the same look-ups are equal. -/
theorem entries_ext {es fs : List (κ × α)} (nodup : (es.map Prod.fst).Nodup)
    (keys : es.map Prod.fst = fs.map Prod.fst) (lookups : ∀ key, lookup key es = lookup key fs) :
    es = fs := by
  induction es generalizing fs with
  | nil => simpa using keys.symm
  | cons e rest ih =>
    obtain ⟨k, v⟩ := e
    cases fs with
    | nil => simp at keys
    | cons f others =>
      obtain ⟨l, w⟩ := f
      simp only [List.map_cons, List.cons.injEq] at keys
      obtain ⟨rfl, keys⟩ := keys
      rw [List.map_cons, List.nodup_cons] at nodup
      have head := lookups k
      simp only [lookup, if_true, Option.some.injEq] at head
      subst head
      -- the key of the head is in neither tail, so there both look-ups fail
      have tail : ∀ key, lookup key rest = lookup key others := by
        intro key
        by_cases same : k = key
        · subst same
          rw [(lookup_eq_none_iff k rest).2 nodup.1,
            (lookup_eq_none_iff k others).2 (keys ▸ nodup.1)]
        · simpa [lookup, same] using lookups key
      rw [ih nodup.2 keys tail]

theorem ext_view {m n : OrderedMap κ α} (keys : m.keys = n.keys)
    (lookups : ∀ key, m.get? key = n.get? key) : m = n :=
  ext (entries_ext m.nodup keys lookups)

theorem keys_insert_of_get? {m : OrderedMap κ α} {key : κ} {current : α}
    (found : m.get? key = some current) (value : α) : (m.insert key value).keys = m.keys := by
  rw [keys_insert, if_pos ((mem_keys_iff m key).2 ⟨current, found⟩)]

/-- A map with fewer keys, in the same order, has the same keys if each of them is still there. -/
theorem keys_eq_of_sublist {m n : OrderedMap κ α} (fewer : n.keys.Sublist m.keys)
    (kept : ∀ key value, m.get? key = some value → ∃ value', n.get? key = some value') :
    n.keys = m.keys := by
  apply fewer.eq_of_length_le
  apply List.Nodup.length_le_of_subset m.nodup
  intro key member
  obtain ⟨value, found⟩ := (mem_keys_iff m key).1 member
  exact (mem_keys_iff n key).2 (kept key value found)

theorem get?_of_sublist {m n : OrderedMap κ α} (fewer : n.keys.Sublist m.keys) {key : κ}
    {value : α} (found : n.get? key = some value) : ∃ value', m.get? key = some value' :=
  (mem_keys_iff m key).1 (fewer.subset ((mem_keys_iff n key).2 ⟨value, found⟩))

/-- It is the same map if even the values are still there. -/
theorem eq_of_sublist {m n : OrderedMap κ α} (fewer : n.keys.Sublist m.keys)
    (kept : ∀ key value, m.get? key = some value → n.get? key = some value) : n = m := by
  apply ext_view (keys_eq_of_sublist fewer fun key value found => ⟨value, kept key value found⟩)
  intro key
  cases found : m.get? key with
  | some value => exact kept key value found
  | none =>
    rw [Option.eq_none_iff_forall_ne_some]
    intro value found'
    obtain ⟨value', present⟩ := get?_of_sublist fewer found'
    rw [found] at present
    cases present

theorem get?_insert_self (m : OrderedMap κ α) (key : κ) (value : α) :
    (m.insert key value).get? key = some value := by
  rw [get?_insert, if_pos rfl]

theorem get?_insert_of_ne (m : OrderedMap κ α) {key other : κ} (differs : other ≠ key)
    (value : α) : (m.insert key value).get? other = m.get? other := by
  rw [get?_insert, if_neg (Ne.symm differs)]

omit [DecidableEq κ] in
/-- Two changes in a row are the change that each value goes through. -/
theorem mapValues_mapValues (m : OrderedMap κ α) {f g both : α → α}
    (each : ∀ value, g (f value) = both value) :
    (m.mapValues f).mapValues g = m.mapValues both := by
  apply ext
  simp [mapValues, Function.comp_def, each]

/-- A change of all values reaches the value that is put in as well. -/
theorem mapValues_insert (m : OrderedMap κ α) (f : α → α) (key : κ) (value : α) :
    (m.insert key value).mapValues f = (m.mapValues f).insert key (f value) := by
  apply ext_view
  · rw [keys_mapValues, keys_insert, keys_insert, keys_mapValues]
  · intro other
    rw [get?_mapValues, get?_insert, get?_insert, get?_mapValues]
    split <;> rfl

/-! ## Entries one after the other -/

theorem insertEntry_of_absent {key : κ} {value : α} {es : List (κ × α)}
    (absent : key ∉ es.map Prod.fst) : insertEntry key value es = es ++ [(key, value)] := by
  induction es with
  | nil => rfl
  | cons e rest ih =>
    rw [List.map_cons, List.mem_cons, not_or] at absent
    rw [insertEntry, if_neg (Ne.symm absent.1), ih absent.2]
    rfl

/-- A value changes in its place. -/
theorem insertEntry_of_present {key : κ} {old value : α} {front back : List (κ × α)}
    (notBefore : key ∉ front.map Prod.fst) :
    insertEntry key value (front ++ (key, old) :: back) = front ++ (key, value) :: back := by
  induction front with
  | nil => simp [insertEntry]
  | cons e rest ih =>
    rw [List.map_cons, List.mem_cons, not_or] at notBefore
    simp [insertEntry, Ne.symm notBefore.1, ih notBefore.2]

/-- New keys come last, in order. -/
theorem entries_foldl_insert (es : List (κ × α)) (start : OrderedMap κ α)
    (nodup : ((start.entries ++ es).map Prod.fst).Nodup) :
    (es.foldl (fun m e => m.insert e.1 e.2) start).entries = start.entries ++ es := by
  induction es generalizing start with
  | nil => rw [List.foldl_nil, List.append_nil]
  | cons e es ih =>
    have absent : e.1 ∉ start.entries.map Prod.fst := by
      rw [List.map_append, List.nodup_append] at nodup
      exact fun member => nodup.2.2 _ member _ (List.mem_map_of_mem List.mem_cons_self) rfl
    have appended : (start.insert e.1 e.2).entries = start.entries ++ [e] :=
      insertEntry_of_absent absent
    rw [List.foldl_cons, ih, appended, List.append_assoc, List.singleton_append]
    rwa [appended, List.append_assoc, List.singleton_append]

/-- The entries of a map, inserted one after the other, make the map. -/
theorem ofList_entries (m : OrderedMap κ α) : ofList m.entries = m :=
  ext (entries_foldl_insert m.entries empty m.nodup)

end ObjectModel.OrderedMap
