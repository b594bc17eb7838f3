/-!
# Maps in insertion order

An `OrderedMap κ α` maps keys to values and remembers the order in which the keys came: the first
`insert` of a key appends it, a later one replaces the value in place, and `erase` closes the gap.
No key occurs twice, which is part of the type.

The view of a map is `get?` together with `keys`: two maps with the same entries are equal, and each
operation has one lemma that says what it does to either side of the view.
-/

namespace ObjectModel

/-- A finite map whose keys keep the order of their first insertion. -/
structure OrderedMap (κ : Type) (α : Type) where
  entries : List (κ × α)
  nodup : (entries.map Prod.fst).Nodup

namespace OrderedMap

variable {κ α : Type}

instance [DecidableEq κ] [DecidableEq α] : DecidableEq (OrderedMap κ α) := fun m n =>
  decidable_of_iff (m.entries = n.entries) (by cases m; cases n; simp)

theorem ext {m n : OrderedMap κ α} (h : m.entries = n.entries) : m = n := by
  cases m; cases n; cases h; rfl

/-- The map without keys. -/
def empty : OrderedMap κ α := ⟨[], .nil⟩

instance : Inhabited (OrderedMap κ α) := ⟨empty⟩

instance : EmptyCollection (OrderedMap κ α) := ⟨empty⟩

def size (m : OrderedMap κ α) : Nat := m.entries.length

def isEmpty (m : OrderedMap κ α) : Bool := m.entries.isEmpty

/-- The keys, in the order of their first insertion. -/
def keys (m : OrderedMap κ α) : List κ := m.entries.map Prod.fst

/-- The values, in the order of their keys. -/
def values (m : OrderedMap κ α) : List α := m.entries.map Prod.snd

/-- Changes every value and no key. -/
def mapValues (m : OrderedMap κ α) (f : α → α) : OrderedMap κ α :=
  ⟨m.entries.map fun e => (e.1, f e.2), by
    have h : (m.entries.map fun e => (e.1, f e.2)).map Prod.fst = m.entries.map Prod.fst := by
      simp [List.map_map, Function.comp_def]
    rw [h]
    exact m.nodup⟩

theorem keys_nodup (m : OrderedMap κ α) : m.keys.Nodup := m.nodup

@[simp] theorem keys_mapValues (m : OrderedMap κ α) (f : α → α) :
    (m.mapValues f).keys = m.keys := by
  simp [keys, mapValues, List.map_map, Function.comp_def]

/-! ## Entries under a key -/

section Entries

variable [DecidableEq κ]

/-- The value of the first entry under a key. -/
def lookup (key : κ) : List (κ × α) → Option α
  | [] => none
  | (k, v) :: rest => if k = key then some v else lookup key rest

/-- Replaces the value of the entry under a key, or appends an entry. -/
def insertEntry (key : κ) (value : α) : List (κ × α) → List (κ × α)
  | [] => [(key, value)]
  | (k, v) :: rest =>
    if k = key then (k, value) :: rest else (k, v) :: insertEntry key value rest

/-- Drops the first entry under a key. -/
def eraseEntry (key : κ) : List (κ × α) → List (κ × α)
  | [] => []
  | (k, v) :: rest => if k = key then rest else (k, v) :: eraseEntry key rest

theorem keys_insertEntry (key : κ) (value : α) (es : List (κ × α)) :
    (insertEntry key value es).map Prod.fst =
      if key ∈ es.map Prod.fst then es.map Prod.fst else es.map Prod.fst ++ [key] := by
  induction es with
  | nil => simp [insertEntry]
  | cons e rest ih =>
    obtain ⟨k, v⟩ := e
    by_cases h : k = key
    · simp [insertEntry, h]
    · have h' : key ≠ k := fun e => h e.symm
      simp only [insertEntry, h, if_false, List.map_cons, ih, List.mem_cons, h', false_or]
      split <;> rfl

theorem keys_eraseEntry (key : κ) (es : List (κ × α)) :
    (eraseEntry key es).map Prod.fst = (es.map Prod.fst).erase key := by
  induction es with
  | nil => rfl
  | cons e rest ih =>
    obtain ⟨k, v⟩ := e
    by_cases h : k = key
    · simp [eraseEntry, h]
    · simp [eraseEntry, h, ih]

theorem nodup_insertEntry (key : κ) (value : α) {es : List (κ × α)}
    (h : (es.map Prod.fst).Nodup) : ((insertEntry key value es).map Prod.fst).Nodup := by
  rw [keys_insertEntry]
  split
  · exact h
  · next hk => exact List.nodup_append.2 ⟨h, by simp, by
      intro a ha b hb
      rw [List.mem_singleton] at hb
      exact fun e => hk (by rw [← hb, ← e]; exact ha)⟩

theorem nodup_eraseEntry (key : κ) {es : List (κ × α)}
    (h : (es.map Prod.fst).Nodup) : ((eraseEntry key es).map Prod.fst).Nodup := by
  rw [keys_eraseEntry]
  exact h.erase key

theorem lookup_insertEntry (key other : κ) (value : α) (es : List (κ × α)) :
    lookup other (insertEntry key value es) =
      if key = other then some value else lookup other es := by
  induction es with
  | nil => simp [insertEntry, lookup]
  | cons e rest ih =>
    obtain ⟨k, v⟩ := e
    by_cases h : k = key
    · subst h
      by_cases ho : k = other <;> simp [insertEntry, lookup, ho]
    · by_cases ho : k = other
      · subst ho
        simp [insertEntry, lookup, h, Ne.symm h]
      · simp [insertEntry, lookup, h, ho, ih]

theorem lookup_eq_none_iff (key : κ) (es : List (κ × α)) :
    lookup key es = none ↔ key ∉ es.map Prod.fst := by
  induction es with
  | nil => simp [lookup]
  | cons e rest ih =>
    obtain ⟨k, v⟩ := e
    by_cases h : k = key
    · simp [lookup, h]
    · simp [lookup, h, ih, Ne.symm h]

theorem lookup_eraseEntry (key other : κ) {es : List (κ × α)} (h : (es.map Prod.fst).Nodup) :
    lookup other (eraseEntry key es) = if key = other then none else lookup other es := by
  induction es with
  | nil => simp [eraseEntry, lookup]
  | cons e rest ih =>
    obtain ⟨k, v⟩ := e
    rw [List.map_cons, List.nodup_cons] at h
    by_cases hk : k = key
    · subst hk
      by_cases ho : k = other
      · subst ho
        simpa [eraseEntry] using (lookup_eq_none_iff k rest).2 h.1
      · simp [eraseEntry, lookup, ho]
    · by_cases ho : k = other
      · subst ho
        simp [eraseEntry, lookup, hk, Ne.symm hk]
      · simp [eraseEntry, lookup, hk, ho, ih h.2]

end Entries

/-! ## Operations -/

section Operations

variable [DecidableEq κ]

def get? (m : OrderedMap κ α) (key : κ) : Option α := lookup key m.entries

def contains (m : OrderedMap κ α) (key : κ) : Bool := (m.get? key).isSome

/-- Puts a value under a key: a new key comes last, a known one keeps its place. -/
def insert (m : OrderedMap κ α) (key : κ) (value : α) : OrderedMap κ α :=
  ⟨insertEntry key value m.entries, nodup_insertEntry key value m.nodup⟩

/-- Removes a key; the other keys keep their order. -/
def erase (m : OrderedMap κ α) (key : κ) : OrderedMap κ α :=
  ⟨eraseEntry key m.entries, nodup_eraseEntry key m.nodup⟩

/-- Puts the entries of a list into the empty map, one after the other. -/
def ofList (entries : List (κ × α)) : OrderedMap κ α :=
  entries.foldl (fun m e => m.insert e.1 e.2) empty

@[simp] theorem get?_empty (key : κ) : (empty : OrderedMap κ α).get? key = none := rfl

theorem get?_insert (m : OrderedMap κ α) (key other : κ) (value : α) :
    (m.insert key value).get? other = if key = other then some value else m.get? other :=
  lookup_insertEntry key other value m.entries

theorem get?_erase (m : OrderedMap κ α) (key other : κ) :
    (m.erase key).get? other = if key = other then none else m.get? other :=
  lookup_eraseEntry key other m.nodup

theorem get?_mapValues (m : OrderedMap κ α) (f : α → α) (key : κ) :
    (m.mapValues f).get? key = (m.get? key).map f := by
  show lookup key (m.entries.map fun e => (e.1, f e.2)) = (lookup key m.entries).map f
  induction m.entries with
  | nil => rfl
  | cons e rest ih =>
    obtain ⟨k, v⟩ := e
    simp only [List.map_cons, lookup, ih]
    split <;> rfl

theorem keys_insert (m : OrderedMap κ α) (key : κ) (value : α) :
    (m.insert key value).keys = if key ∈ m.keys then m.keys else m.keys ++ [key] :=
  keys_insertEntry key value m.entries

theorem keys_erase (m : OrderedMap κ α) (key : κ) : (m.erase key).keys = m.keys.erase key :=
  keys_eraseEntry key m.entries

theorem get?_eq_none_iff (m : OrderedMap κ α) (key : κ) : m.get? key = none ↔ key ∉ m.keys :=
  lookup_eq_none_iff key m.entries

theorem contains_iff_mem_keys (m : OrderedMap κ α) (key : κ) :
    m.contains key = true ↔ key ∈ m.keys := by
  rw [contains, Option.isSome_iff_ne_none, ne_eq, get?_eq_none_iff, Classical.not_not]

end Operations

end OrderedMap

end ObjectModel
