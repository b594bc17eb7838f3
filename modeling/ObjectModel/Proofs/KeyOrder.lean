import Mathlib.Data.List.Sort
import ObjectModel.Proofs.Key
import ObjectModel.Proofs.PropertyTable

/-!
# The order of keys over a history

`PropertyTable.replay` runs a history of writes and deletions.  The table that it leaves can be told
from the history alone: the last edit of a key says whether the key is there and with which
property, and the keys stand in the order in which they were born (`BornAt`).  `Recounts` is this
with what one more edit needs to keep it (`Recounts.set`, `Recounts.delete`).

Scripts see the array indices first, from the smallest to the largest (`keysInOrder_indicesFirst`).
The order is strict because no two keys have the same index.
-/

namespace ObjectModel

/-- An edit of a table. -/
inductive TableEdit where
  | set (key : PropertyKey) (p : PropertyDescriptor)
  | delete (key : PropertyKey)
deriving DecidableEq

namespace TableEdit

def key : TableEdit → PropertyKey
  | set key _ | delete key => key

def applyTo (t : PropertyTable) : TableEdit → PropertyTable
  | set key p => t.insert key p
  | delete key => t.erase key

end TableEdit

namespace PropertyTable

/-! ## Histories -/

/-- The table after some edits of the empty one. -/
def replay (history : List TableEdit) : PropertyTable := history.foldl TableEdit.applyTo .empty

def lastEdit? (history : List TableEdit) (key : PropertyKey) : Option TableEdit :=
  history.reverse.find? (·.key = key)

/-- The key came into the table with this edit and has been there since: it is written, it is not
deleted later, and any earlier write of it was undone in between. -/
structure BornAt (history : List TableEdit) (key : PropertyKey) (time : Nat) : Prop where
  written : ∃ p, history[time]? = some (.set key p)
  stays : ∀ later, time < later → history[later]? ≠ some (.delete key)
  first : ∀ earlier p, earlier < time → history[earlier]? = some (.set key p) →
    ∃ between, earlier < between ∧ between < time ∧ history[between]? = some (.delete key)

theorem BornAt.unique {history : List TableEdit} {key : PropertyKey} {s u : Nat}
    (born : BornAt history key s) (again : BornAt history key u) : s = u := by
  have notBefore : ∀ {s u}, BornAt history key s → BornAt history key u → ¬s < u := by
    intro s u born again before
    -- the later birth asks for a deletion in between, and the earlier one excludes it
    obtain ⟨p, written⟩ := born.written
    obtain ⟨between, after, -, deleted⟩ := again.first s p before written
    exact born.stays between after deleted
  have := notBefore born again
  have := notBefore again born
  omega

section Append

variable {history : List TableEdit} {edit : TableEdit} {key : PropertyKey} {time : Nat}

theorem replay_append (history : List TableEdit) (edit : TableEdit) :
    replay (history ++ [edit]) = edit.applyTo (replay history) := by
  simp [replay]

theorem lastEdit?_append (history : List TableEdit) (edit : TableEdit) (key : PropertyKey) :
    lastEdit? (history ++ [edit]) key =
      if edit.key = key then some edit else lastEdit? history key := by
  by_cases this : edit.key = key <;> simp [lastEdit?, this]

theorem getElem?_append_iff {e : TableEdit} : (history ++ [edit])[time]? = some e ↔
    history[time]? = some e ∨ time = history.length ∧ edit = e := by
  by_cases inside : time < history.length
  · rw [List.getElem?_append_left inside]
    simp [Nat.ne_of_lt inside]
  · have outside : history[time]? = none := List.getElem?_eq_none (by omega)
    rw [List.getElem?_append_right (by omega), outside]
    by_cases last : time = history.length
    · simp [last]
    · have : time - history.length ≠ 0 := by omega
      simp [last, this]

theorem lt_of_getElem? {e : TableEdit} (there : history[time]? = some e) : time < history.length :=
  (List.getElem?_eq_some_iff.1 there).1

theorem BornAt.append (born : BornAt history key time) (kept : edit ≠ .delete key) :
    BornAt (history ++ [edit]) key time where
  written := by
    obtain ⟨p, written⟩ := born.written
    exact ⟨p, getElem?_append_iff.2 (.inl written)⟩
  stays later after deleted := by
    obtain old | ⟨-, new⟩ := getElem?_append_iff.1 deleted
    · exact born.stays later after old
    · exact kept new
  first earlier p before written := by
    obtain old | ⟨new, -⟩ := getElem?_append_iff.1 written
    · obtain ⟨between, after, before, deleted⟩ := born.first earlier p before old
      exact ⟨between, after, before, getElem?_append_iff.2 (.inl deleted)⟩
    · obtain ⟨q, written⟩ := born.written
      have := lt_of_getElem? written
      omega

/-- A write brings a key to life if every earlier write of it has been undone. -/
theorem bornAt_length
    (undone : ∀ (earlier : Nat) p, history[earlier]? = some (.set key p) →
      ∃ later, earlier < later ∧ history[later]? = some (.delete key))
    (p : PropertyDescriptor) : BornAt (history ++ [.set key p]) key history.length where
  written := ⟨p, getElem?_append_iff.2 (.inr ⟨rfl, rfl⟩)⟩
  stays later after deleted := by
    obtain old | ⟨new, -⟩ := getElem?_append_iff.1 deleted
    · have := lt_of_getElem? old
      omega
    · omega
  first earlier q before written := by
    obtain old | ⟨new, -⟩ := getElem?_append_iff.1 written
    · obtain ⟨later, after, deleted⟩ := undone earlier q old
      exact ⟨later, after, lt_of_getElem? deleted, getElem?_append_iff.2 (.inl deleted)⟩
    · omega

end Append

/-- The table is what the history tells. -/
structure Recounts (history : List TableEdit) (t : PropertyTable) : Prop where
  lookup : ∀ key p, t.get? key = some p ↔ lastEdit? history key = some (.set key p)
  undone : ∀ key, key ∉ t.keys → ∀ (time : Nat) p, history[time]? = some (.set key p) →
    ∃ later, time < later ∧ history[later]? = some (.delete key)
  born : ∀ key ∈ t.keys, ∃ time, BornAt history key time
  order : t.keys.Pairwise fun k l => ∃ s u, BornAt history k s ∧ BornAt history l u ∧ s < u

namespace Recounts

variable {history : List TableEdit} {t : PropertyTable}

theorem empty : Recounts [] .empty where
  lookup key p := by simp [lastEdit?]
  undone key absent time p written := by simp at written
  born key member := by cases member
  order := .nil

theorem set (recounts : Recounts history t) (key : PropertyKey) (p : PropertyDescriptor) :
    Recounts (history ++ [.set key p]) (t.insert key p) := by
  have alive : ∀ {k time}, BornAt history k time → BornAt (history ++ [.set key p]) k time :=
    fun born => born.append nofun
  have order : t.keys.Pairwise fun k l => ∃ s u, BornAt (history ++ [.set key p]) k s ∧
      BornAt (history ++ [.set key p]) l u ∧ s < u := by
    refine recounts.order.imp fun ordered => ?_
    obtain ⟨s, u, bornK, bornL, before⟩ := ordered
    exact ⟨s, u, alive bornK, alive bornL, before⟩
  refine ⟨fun k q => ?_, fun k absent time q written => ?_, ?_, ?_⟩
  · -- the edit is the last one of its own key, and not one of any other
    rw [OrderedMap.get?_insert, lastEdit?_append]
    by_cases this : key = k
    · subst this
      simp [TableEdit.key]
    · simp [TableEdit.key, this, recounts.lookup]
  · have absentBefore : k ≠ key ∧ k ∉ t.keys := by
      rw [OrderedMap.keys_insert] at absent
      split at absent
      · next present => exact ⟨fun this => absent (this ▸ present), absent⟩
      · simp_all
    obtain old | ⟨-, new⟩ := getElem?_append_iff.1 written
    · obtain ⟨later, after, deleted⟩ := recounts.undone k absentBefore.2 time q old
      exact ⟨later, after, getElem?_append_iff.2 (.inl deleted)⟩
    · cases new
      exact absurd rfl absentBefore.1
  · intro k member
    by_cases before : k ∈ t.keys
    · obtain ⟨time, born⟩ := recounts.born k before
      exact ⟨time, alive born⟩
    · have new : k = key := by
        rw [OrderedMap.keys_insert] at member
        split at member <;> simp_all
      subst new
      exact ⟨_, bornAt_length (recounts.undone k before) p⟩
  · rw [OrderedMap.keys_insert]
    split
    · exact order
    · next absent =>
      -- the new key is younger than all that are there
      refine List.pairwise_append.2 ⟨order, List.pairwise_singleton .., ?_⟩
      intro k member l last
      obtain rfl := List.mem_singleton.1 last
      obtain ⟨time, born⟩ := recounts.born k member
      obtain ⟨q, written⟩ := born.written
      exact ⟨time, _, alive born, bornAt_length (recounts.undone l absent) p,
        lt_of_getElem? written⟩

theorem delete (recounts : Recounts history t) (key : PropertyKey) :
    Recounts (history ++ [.delete key]) (t.erase key) := by
  have remains : ∀ {k}, k ∈ (t.erase key).keys ↔ k ≠ key ∧ k ∈ t.keys := by
    intro k
    rw [OrderedMap.keys_erase, t.keys_nodup.mem_erase_iff]
  have alive : ∀ {k time}, k ≠ key → BornAt history k time →
      BornAt (history ++ [.delete key]) k time :=
    fun other born => born.append fun this => other (TableEdit.delete.inj this).symm
  refine ⟨fun k q => ?_, fun k absent time q written => ?_, ?_, ?_⟩
  · rw [OrderedMap.get?_erase, lastEdit?_append]
    by_cases this : key = k
    · simp [TableEdit.key, this]
    · simp [TableEdit.key, this, recounts.lookup]
  · -- every write of the deleted key is undone by this very edit
    obtain old | ⟨-, new⟩ := getElem?_append_iff.1 written
    · by_cases this : k = key
      · exact ⟨history.length, lt_of_getElem? old, getElem?_append_iff.2 (.inr ⟨rfl, this ▸ rfl⟩)⟩
      · have absentBefore : k ∉ t.keys := fun member => absent (remains.2 ⟨this, member⟩)
        obtain ⟨later, after, deleted⟩ := recounts.undone k absentBefore time q old
        exact ⟨later, after, getElem?_append_iff.2 (.inl deleted)⟩
    · cases new
  · intro k member
    obtain ⟨other, before⟩ := remains.1 member
    obtain ⟨time, born⟩ := recounts.born k before
    exact ⟨time, alive other born⟩
  · have sublist : (t.erase key).keys.Sublist t.keys := by
      rw [OrderedMap.keys_erase]
      exact List.erase_sublist
    refine (recounts.order.sublist sublist).imp_of_mem ?_
    intro k l memberK memberL ordered
    obtain ⟨s, u, bornK, bornL, before⟩ := ordered
    exact ⟨s, u, alive (remains.1 memberK).1 bornK, alive (remains.1 memberL).1 bornL, before⟩

end Recounts

theorem recounts_replay (history : List TableEdit) : Recounts history (replay history) := by
  induction history using List.reverseRecOn with
  | nil => exact .empty
  | append_singleton history edit ih =>
    rw [replay_append]
    cases edit with
    | set key p => exact ih.set key p
    | delete key => exact ih.delete key

/-! ## Array indices -/

/-- Keys in the order in which scripts see them: first those that numbers up to `2 ^ 32 - 2` name,
from the smallest number to the largest, and then the others, in the order in which they were. -/
structure IndicesFirst (keys inOrder : List PropertyKey) (indices : List Nat)
    (others : List PropertyKey) : Prop where
  parts : inOrder = indices.map .decimal ++ others
  ascending : indices.Pairwise (· < ·)
  mem_indices : ∀ n, n ∈ indices ↔ n ≤ 2 ^ 32 - 2 ∧ .decimal n ∈ keys
  sublist : others.Sublist keys
  mem_others : ∀ key, key ∈ others ↔ key ∈ keys ∧ ∀ n ≤ 2 ^ 32 - 2, key ≠ .decimal n

theorem mem_sortedIndices {keys : List PropertyKey} {e : UInt32 × PropertyKey} :
    e ∈ sortedIndices keys ↔ e.2 ∈ keys ∧ e.2.arrayIndex? = some e.1 := by
  obtain ⟨n, key⟩ := e
  simp only [sortedIndices, List.mem_mergeSort, List.mem_filterMap, Option.map_eq_some_iff,
    Prod.mk.injEq]
  constructor
  · rintro ⟨key, member, n, index, rfl, rfl⟩
    exact ⟨member, index⟩
  · rintro ⟨member, index⟩
    exact ⟨key, member, n, index, rfl, rfl⟩

/-- The numbers that name the array indices among some keys, in ascending order. -/
def indicesOf (keys : List PropertyKey) : List Nat := (sortedIndices keys).map (·.1.toNat)

theorem map_decimal_indicesOf (keys : List PropertyKey) :
    (indicesOf keys).map .decimal = (sortedIndices keys).map Prod.snd := by
  rw [indicesOf, List.map_map]
  refine List.map_congr_left fun e member => ?_
  rw [PropertyKey.eq_ofIndex_of_arrayIndex? (mem_sortedIndices.1 member).2]
  rfl

theorem mem_indicesOf {keys : List PropertyKey} {n : Nat} :
    n ∈ indicesOf keys ↔ n ≤ 2 ^ 32 - 2 ∧ .decimal n ∈ keys := by
  constructor
  · intro member
    obtain ⟨e, listed, rfl⟩ := List.mem_map.1 member
    obtain ⟨present, index⟩ := mem_sortedIndices.1 listed
    rw [PropertyKey.eq_ofIndex_of_arrayIndex? index] at present
    exact ⟨PropertyKey.le_maxArrayIndex_of_arrayIndex? index, present⟩
  · rintro ⟨small, present⟩
    have below : n < 2 ^ 32 - 1 := Nat.lt_of_le_of_lt small (by decide)
    have listed : (UInt32.ofNat n, .decimal n) ∈ sortedIndices keys :=
      mem_sortedIndices.2 ⟨present, PropertyKey.arrayIndex?_decimal below⟩
    exact List.mem_map.2 ⟨_, listed, UInt32.toNat_ofNat_of_lt (Nat.lt_succ_of_lt below)⟩

theorem indicesOf_ascending {keys : List PropertyKey} (nodup : keys.Nodup) :
    (indicesOf keys).Pairwise (· < ·) := by
  have sorted : (sortedIndices keys).Pairwise fun a b => decide (a.1 ≤ b.1) = true :=
    List.pairwise_mergeSort (fun a b c => by simpa using UInt32.le_trans)
      (fun a b => by simpa using UInt32.le_total a.1 b.1) _
  have different : (sortedIndices keys).Pairwise fun a b => a.2 ≠ b.2 := by
    have : ((sortedIndices keys).map Prod.snd).Nodup :=
      (sortedIndices_perm keys).nodup_iff.2 (nodup.filter _)
    exact List.pairwise_map.1 this
  refine List.pairwise_map.2 ((sorted.and different).imp_of_mem ?_)
  intro a b memberA memberB sortedApart
  obtain ⟨le, ne⟩ := sortedApart
  refine UInt32.lt_iff_toNat_lt.1 (UInt32.lt_of_le_of_ne (of_decide_eq_true le) fun same => ne ?_)
  -- an index has one text only
  rw [PropertyKey.eq_ofIndex_of_arrayIndex? (mem_sortedIndices.1 memberA).2, same,
    ← PropertyKey.eq_ofIndex_of_arrayIndex? (mem_sortedIndices.1 memberB).2]

theorem keysInOrder_indicesFirst (t : PropertyTable) :
    IndicesFirst t.keys t.keysInOrder (indicesOf t.keys)
      (t.keys.filter fun key => !key.isArrayIndex) where
  parts := by rw [map_decimal_indicesOf, keysInOrder]
  ascending := indicesOf_ascending t.keys_nodup
  mem_indices _ := mem_indicesOf
  sublist := List.filter_sublist
  mem_others key := by
    have named : (!key.isArrayIndex) = true ↔ ∀ n ≤ 2 ^ 32 - 2, key ≠ .decimal n := by
      rw [Bool.not_eq_true', ← Bool.not_eq_true, PropertyKey.isArrayIndex_iff_decimal]
      simp [PropertyKey.maxArrayIndex]
    rw [List.mem_filter, named]

/-- The keys of a table, whatever its history of writes and deletions, and the order in which
scripts see them. -/
theorem key_order_over_histories (history : List TableEdit) :
    let t := replay history
    (∀ key, key ∈ t.keys ↔ ∃ p, lastEdit? history key = some (.set key p)) ∧
    (∀ key p, t.get? key = some p ↔ lastEdit? history key = some (.set key p)) ∧
    t.keys.Nodup ∧ (∀ key ∈ t.keys, ∃! time, BornAt history key time) ∧
    (t.keys.Pairwise fun k l => ∀ s u, BornAt history k s → BornAt history l u → s < u) ∧
    t.keysInOrder.Perm t.keys ∧
    ∃ indices others, IndicesFirst t.keys t.keysInOrder indices others := by
  intro t
  have recounts : Recounts history t := recounts_replay history
  refine ⟨fun key => ?_, recounts.lookup, t.keys_nodup, fun key member => ?_, ?_,
    t.keysInOrder_perm, _, _, t.keysInOrder_indicesFirst⟩
  · rw [OrderedMap.mem_keys_iff]
    exact exists_congr (recounts.lookup key)
  · obtain ⟨time, born⟩ := recounts.born key member
    exact ⟨time, born, fun other again => again.unique born⟩
  · refine recounts.order.imp fun ordered s' u' bornK' bornL' => ?_
    obtain ⟨s, u, bornK, bornL, before⟩ := ordered
    rwa [bornK'.unique bornK, bornL'.unique bornL]

/-- A key that is deleted and written again comes last, but scripts see the array indices first, in
the order of their numbers, and the text of a larger number among the other keys. -/
theorem order_of_rewritten_keys :
    let p : PropertyDescriptor := .openData .null
    let history : List TableEdit := [.set ⟨"10"⟩ p, .set ⟨"b"⟩ p, .set ⟨"4294967295"⟩ p,
      .set ⟨"9"⟩ p, .delete ⟨"10"⟩, .set ⟨"10"⟩ p]
    let t := replay history
    t.keys = [⟨"b"⟩, ⟨"4294967295"⟩, ⟨"9"⟩, ⟨"10"⟩] ∧
    ∃ others, t.keysInOrder = [⟨"9"⟩, ⟨"10"⟩] ++ others ∧
      ∀ key, key ∈ others ↔ key = ⟨"b"⟩ ∨ key = ⟨"4294967295"⟩ := by
  intro p history t
  have keys : t.keys = [⟨"b"⟩, .decimal 4294967295, .decimal 9, .decimal 10] := by decide
  obtain ⟨-, -, -, -, -, -, indices, others, order⟩ := key_order_over_histories history
  replace order : IndicesFirst t.keys t.keysInOrder indices others := order
  rw [keys] at order
  have letter : ∀ n, (⟨"b"⟩ : PropertyKey) ≠ .decimal n :=
    PropertyKey.ne_decimal (c := 'b') (by decide) (by decide)
  have nineAndTen : indices = [9, 10] := by
    refine order.ascending.eq_of_mem_iff (by decide) fun n => ?_
    rw [order.mem_indices]
    simp only [List.mem_cons, List.not_mem_nil, or_false, PropertyKey.decimal_inj,
      (letter n).symm, false_or]
    omega
  refine ⟨keys, others, by rw [order.parts, nineAndTen]; rfl, fun key => ?_⟩
  rw [order.mem_others]
  constructor
  · rintro ⟨member, noIndex⟩
    simp only [List.mem_cons, List.not_mem_nil, or_false] at member
    obtain rfl | rfl | rfl | rfl := member
    · exact .inl rfl
    · exact .inr rfl
    · exact absurd rfl (noIndex 9 (by decide))
    · exact absurd rfl (noIndex 10 (by decide))
  · rintro (rfl | rfl)
    · exact ⟨by decide, fun n _ => letter n⟩
    · refine ⟨by decide, fun n small same => ?_⟩
      have := (PropertyKey.decimal_inj (m := 4294967295)).1 same
      omega

end PropertyTable

end ObjectModel
