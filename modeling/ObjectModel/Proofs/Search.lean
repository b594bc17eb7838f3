import Mathlib.Order.Bounds.Basic
import ObjectModel.Proofs.Key
import ObjectModel.Proofs.Rational
import ObjectModel.Proofs.Reading

/-!
# The least index of a value

`ArrayLike.indexOf` looks for the least index, from a start on, under which the chain shows a value
that strictly equals the one that is searched for (`indexOf_least`).

The start is computed with doubles.  As a number (`searchFrom`) it is any integer or an infinity,
and `searchStart?_spec` says that neither the sum nor the conversion to an index changes it where
it matters: below zero it is cut off, and at or behind the length there is no search.  The loop is
an induction on the number of indices that are left (`findIndex_run`).
-/

namespace ObjectModel

variable {β σ : Type}

/-! ## Strict equality -/

namespace Double

theorem eq_zero_of_isZero {x : Double} (isZero : x.isZero = true) : x = zero x.isNegative := by
  rw [Double.isZero, decide_eq_true_eq] at isZero
  rw [zero, ← isZero, ofMagnitude_magnitude]

end Double

namespace Value

/-- Every value equals itself, except not-a-number, and the two zeros equal each other. -/
inductive StrictlyEqual : Value → Value → Prop where
  | self {v} (number : ∀ x, v = .number x → x.isNaN = false) : StrictlyEqual v v
  | zeros (s t : Bool) : StrictlyEqual (.number (.zero s)) (.number (.zero t))

theorem strictEquals_iff {v w : Value} : v.strictEquals w = true ↔ StrictlyEqual v w := by
  constructor
  · intro equal
    cases v with
    | number x =>
      cases w with
      | number y =>
        simp only [strictEquals, Double.equals, Bool.and_eq_true, Bool.or_eq_true,
          Bool.not_eq_eq_eq_not, Bool.not_true, beq_iff_eq] at equal
        obtain ⟨⟨notNaN, -⟩, rfl | ⟨xZero, yZero⟩⟩ := equal
        · exact .self fun _ same => by cases same; exact notNaN
        · rw [Double.eq_zero_of_isZero xZero, Double.eq_zero_of_isZero yZero]
          exact .zeros _ _
      | _ => cases equal
    | _ =>
      rw [strictEquals, beq_iff_eq] at equal
      · subst equal
        exact .self (by rintro _ ⟨⟩)
      · rintro _ _ ⟨⟩
  · rintro (number | ⟨s, t⟩)
    · cases v with
      | number x => simp [strictEquals, Double.equals, number x rfl]
      | _ => simp [strictEquals]
    · cases s <;> cases t <;> decide

end Value

/-! ## The integer of a value -/

/-- An integer or an infinity. -/
inductive ExtendedInt where
  | below
  | finite (n : Int)
  | above

namespace ExtendedInt

/-- The order in which the infinities are below and above all integers. -/
protected def Le : ExtendedInt → ExtendedInt → Prop
  | below, _ | _, above => True
  | finite m, finite n => m ≤ n
  | above, _ | _, below => False

instance : LE ExtendedInt := ⟨ExtendedInt.Le⟩

@[simp]
theorem finite_le_finite {m n : Int} : finite m ≤ finite n ↔ m ≤ n := Iff.rfl

@[simp]
theorem le_above (m : ExtendedInt) : m ≤ above := by cases m <;> exact trivial

@[simp]
theorem not_finite_le_below (m : Int) : ¬finite m ≤ below := id

end ExtendedInt

/-- The number without its fraction, and zero for not-a-number. -/
def Double.integer (x : Double) : ExtendedInt :=
  match x.parts with
  | .nan => .finite 0
  | .infinite negative => if negative then .below else .above
  | .finite negative m q => .finite (if negative then -(wholePart m q : Int) else wholePart m q)

/-- The double has an integer, or an infinity, as its number. -/
inductive Double.IsInteger (x : Double) : ExtendedInt → Prop where
  | finite (n : Int) (whole : x.rational? = some (n : ℚ)) : IsInteger x (.finite n)
  | above (infinite : x.parts = .infinite false) : IsInteger x .above
  | below (infinite : x.parts = .infinite true) : IsInteger x .below

theorem Value.toInteger_isInteger (v : Value) : v.toInteger.IsInteger v.toNumber.integer := by
  unfold toInteger
  dsimp only
  generalize v.toNumber = x
  unfold Double.integer
  cases parts : x.parts with
  | nan =>
    rw [if_pos (Double.parts_eq_nan_iff.1 parts)]
    exact .finite 0 (Double.rational?_zero false)
  | infinite negative =>
    have same : x.integerPart = x := by rw [Double.integerPart, parts]
    rw [Double.isNaN_of_parts parts (by simp), if_neg Bool.false_ne_true, same]
    cases negative with
    | false => exact .above parts
    | true => exact .below parts
  | finite negative m q =>
    have whole := Double.integerPart_whole (x := x) (by rw [Double.truncate?, parts])
    rw [Double.isNaN_of_parts parts (by simp), if_neg Bool.false_ne_true]
    cases negative <;> exact .finite _ whole

namespace ArrayLike

open Double

/-! ## The start of a search -/

/-- The integer that a search is asked to start from, zero if it is not. -/
def fromNumber (fromIndex : Option Value) : ExtendedInt :=
  (fromIndex.map fun i => i.toNumber.integer).getD (.finite 0)

/-- The number that a search starts at: below zero, the integer counts from the end. -/
def searchFrom (length : Nat) : ExtendedInt → ExtendedInt
  | .below => .finite 0
  | .finite n => .finite (if 0 ≤ n then n else max (length + n) 0)
  | .above => .above

/-- The start of a search is before the end only if the integer is. -/
theorem searchFrom_le {length k : Nat} {n : ExtendedInt} (low : searchFrom length n ≤ .finite k)
    (behind : .finite length ≤ n) : length ≤ k := by
  cases n with
  | below => exact absurd behind (ExtendedInt.not_finite_le_below _)
  | finite n =>
    rw [ExtendedInt.finite_le_finite] at behind
    rw [searchFrom, ExtendedInt.finite_le_finite, if_pos (by omega)] at low
    omega
  | above => exact low.elim

theorem fromNumber_isInteger (fromIndex : Option Value) :
    ((fromIndex.map Value.toInteger).getD (.zero false)).IsInteger (fromNumber fromIndex) := by
  cases fromIndex with
  | none => exact .finite 0 (rational?_zero false)
  | some i => exact i.toInteger_isInteger

section Start

variable {length : UInt32} {x : Double} {n : ExtendedInt} (isInteger : x.IsInteger n)

include isInteger

theorem atMost_integer_iff {bound : Double} {k : Int} (whole : bound.rational? = some (k : ℚ)) :
    bound.atMost x = true ↔ .finite k ≤ n := by
  obtain ⟨s, m, q, parts, -⟩ := rational?_eq_some_iff.1 whole
  cases isInteger with
  | finite n whole' => rw [atMost_iff whole whole', Int.cast_le, ExtendedInt.finite_le_finite]
  | above infinite => simp [atMost, parts, infinite]
  | below infinite => simp [atMost, parts, infinite]

/-- An integer of the range is its own index. -/
theorem clamp_inside (nonneg : .finite 0 ≤ n) (before : ¬.finite length.toNat ≤ n) :
    .finite x.clampToUInt32.toNat = searchFrom length.toNat n := by
  have small : length.toNat < 2 ^ 32 := length.toNat_lt
  cases isInteger with
  | finite n whole =>
    rw [ExtendedInt.finite_le_finite] at nonneg before
    obtain ⟨k, rfl⟩ := Int.eq_ofNat_of_zero_le nonneg
    rw [clampToUInt32_whole whole (by omega), searchFrom, if_pos nonneg]
  | above infinite => exact absurd (ExtendedInt.le_above _) before
  | below infinite => exact absurd nonneg (ExtendedInt.not_finite_le_below 0)

/-- What is below zero is added to the length, and cut off at zero if it is still below. -/
theorem clamp_fromEnd (negative : ¬.finite 0 ≤ n) :
    .finite ((ofNat length.toNat + x).larger (zero false)).clampToUInt32.toNat =
      searchFrom length.toNat n := by
  have small : length.toNat < 2 ^ 32 := length.toNat_lt
  have lengthWhole := ofNat_whole (n := length.toNat) (by omega)
  have clampZero : (zero false).clampToUInt32.toNat = 0 :=
    clampToUInt32_whole (by rw [rational?_zero, Nat.cast_zero]) (by decide)
  cases isInteger with
  | finite n whole =>
    rw [ExtendedInt.finite_le_finite] at negative
    rw [searchFrom, if_neg negative]
    have sum : (length.toNat : ℚ) + n = ((length.toNat + n : Int) : ℚ) := by push_cast; rfl
    by_cases inside : 0 ≤ length.toNat + n
    · have total := larger_zero (add_whole lengthWhole whole sum (by omega))
        (by exact_mod_cast inside)
      obtain ⟨k, same⟩ := Int.eq_ofNat_of_zero_le inside
      rw [same] at total
      rw [clampToUInt32_whole total (by omega), max_eq_left inside, same]
    · obtain ⟨number, isNegative⟩ := add_negative lengthWhole whole
        (by rw [sum]; exact_mod_cast Int.not_le.1 inside)
      rw [larger_zero_of_negative number isNegative, clampZero,
        max_eq_right (Int.not_le.1 inside).le]
      rfl
  | above infinite => exact absurd (ExtendedInt.le_above _) negative
  | below infinite =>
    obtain ⟨s, m, q, parts, -⟩ := rational?_eq_some_iff.1 lengthWhole
    have sum : ofNat length.toNat + x = infinity true := by
      show add _ _ = _
      rw [add, parts, infinite]
    rw [sum, larger_zero_of_negative (by decide) (by decide), clampZero]
    rfl

end Start

/-- There is a search unless its start is at or behind the end, and no rounding moves its start. -/
theorem searchStart?_spec (length : UInt32) (fromIndex : Option Value) :
    (.finite length.toNat ≤ fromNumber fromIndex → searchStart? length fromIndex = none) ∧
      (¬.finite length.toNat ≤ fromNumber fromIndex →
        ∃ start, searchStart? length fromIndex = some start ∧
          .finite start.toNat = searchFrom length.toNat (fromNumber fromIndex)) := by
  have small : length.toNat < 2 ^ 32 := length.toNat_lt
  have isInteger := fromNumber_isInteger fromIndex
  have endTest := atMost_integer_iff isInteger (k := length.toNat) (ofNat_whole (by omega))
  have signTest := atMost_integer_iff isInteger (k := 0) (rational?_zero false)
  unfold searchStart?
  dsimp only
  generalize (fromIndex.map Value.toInteger).getD (.zero false) = x at *
  generalize fromNumber fromIndex = n at *
  refine ⟨fun behind => if_pos (endTest.2 behind), fun before => ?_⟩
  rw [if_neg (before ∘ endTest.1)]
  refine ⟨_, rfl, ?_⟩
  by_cases nonneg : .finite 0 ≤ n
  · rw [if_pos (signTest.2 nonneg)]
    exact clamp_inside isInteger nonneg before
  · rw [if_neg (nonneg ∘ signTest.1)]
    exact clamp_fromEnd isInteger nonneg

/-! ## The loop -/

/-- What a search finds: the least number with the property, or none because no number has it. -/
inductive Least (P : Nat → Prop) : Option UInt32 → Prop where
  | found {k : UInt32} (least : IsLeast {i | P i} k.toNat) : Least P (some k)
  | missing (never : ∀ i, ¬P i) : Least P none

namespace Least

variable {P Q : Nat → Prop} {found : Option UInt32}

theorem eq_some_iff (least : Least P found) (k : UInt32) :
    found = some k ↔ IsLeast {i | P i} k.toNat := by
  cases least with
  | found least =>
    rw [Option.some_inj, ← UInt32.toNat_inj]
    exact ⟨fun same => same ▸ least, fun least' => least.unique least'⟩
  | missing never => exact ⟨nofun, fun least' => absurd least'.1 (never _)⟩

theorem eq_none_iff (least : Least P found) : found = none ↔ ∀ i, ¬P i := by
  cases least with
  | found least => exact ⟨nofun, fun never => absurd least.1 (never _)⟩
  | missing never => exact ⟨fun _ => never, fun _ => rfl⟩

theorem congr (least : Least P found) (same : ∀ i, P i ↔ Q i) : Least Q found := by
  obtain rfl : P = Q := funext fun i => propext (same i)
  exact least

end Least

/-- The chain shows a value under the key that strictly equals the one that is searched for. -/
def Matches (r : Realm β) (object : ObjectHandle) (search : Value) (key : PropertyKey) : Prop :=
  ∃ value, r.Shows object key value ∧ value.StrictlyEqual search

section Loop

variable {r : Realm β} {object : ObjectHandle} (search : Value)
  (bodies : β → Value → List Value → Program β σ Value) (depth : Nat) (state : σ)

/-- One index: a match ends the loop, and anything else leads to the next index. -/
theorem findIndex_step {index : Nat} {value : Value}
    (reads : r.ReadsPlainly object (.ofIndex (UInt32.ofNat index)) value) (count : Nat) :
    ∃ events,
      (Matches r object search (.ofIndex (UInt32.ofNat index)) →
        (findIndex object search (count + 1) index).run bodies depth ⟨r, state⟩ =
          some (.ok (some (UInt32.ofNat index)), ⟨{ r with events }, state⟩)) ∧
      (¬Matches r object search (.ofIndex (UInt32.ofNat index)) →
        (findIndex object search (count + 1) index).run bodies depth ⟨r, state⟩ =
          (findIndex object search count (index + 1)).run bodies depth
            ⟨{ r with events }, state⟩) := by
  have unfolded : findIndex object search (count + 1) index =
      (Program.has object (.ofIndex (UInt32.ofNat index)) : Program β σ Bool).andThen fun present =>
        if present then
          (Program.getValue object (.ofIndex (UInt32.ofNat index))).andThen fun value =>
            if value.strictEquals search then .done (.ok (some (UInt32.ofNat index)))
            else findIndex object search count (index + 1)
        else findIndex object search count (index + 1) := rfl
  rw [unfolded, Program.run_andThen]
  cases reads with
  | shown shows =>
    have shows' := shows
    obtain ⟨owner, w, e, c, truncation, ends⟩ := shows
    obtain ⟨events, present⟩ := Realm.run_has bodies depth state ends
    obtain ⟨events', read⟩ := Realm.ReadsPlainly.run_getValue bodies depth state
      (r := { r with events }) (.shown ⟨owner, w, e, c, truncation, ends⟩)
    have matches_iff : Matches r object search (.ofIndex (UInt32.ofNat index)) ↔
        value.strictEquals search = true := by
      rw [Value.strictEquals_iff]
      exact ⟨fun ⟨_, shows, equal⟩ => shows'.unique shows ▸ equal, fun equal => ⟨_, shows', equal⟩⟩
    refine ⟨events', fun found => ?_, fun found => ?_⟩
    · simp only [present, Option.bind_some, Option.isSome_some, if_true, Program.run_andThen, read,
        matches_iff.1 found]
      rfl
    · rw [matches_iff] at found
      simp only [present, Option.bind_some, Option.isSome_some, if_true, Program.run_andThen, read,
        if_neg found]
  | absent ends =>
    obtain ⟨events, present⟩ := Realm.run_has bodies depth state ends
    refine ⟨events, fun ⟨_, ⟨_, _, _, _, _, found⟩, _⟩ => ?_, fun _ => ?_⟩
    · cases ends.symm.trans found
    · rw [present]
      rfl

theorem findIndex_run (count index : Nat) (inside : index + count ≤ 2 ^ 32)
    (plain : ∀ k : UInt32, index ≤ k.toNat → k.toNat < index + count →
      ∃ value, r.ReadsPlainly object (.ofIndex k) value) :
    ∃ found events, (findIndex object search count index).run bodies depth ⟨r, state⟩ =
        some (.ok found, ⟨{ r with events }, state⟩) ∧
      Least (fun k => index ≤ k ∧ k < index + count ∧ Matches r object search (.decimal k))
        found := by
  induction count generalizing r index with
  | zero =>
    refine ⟨none, r.events, rfl, .missing ?_⟩
    rintro k ⟨low, high, -⟩
    omega
  | succ count ih =>
    have number : (UInt32.ofNat index).toNat = index := Heap.index_ofNat (by omega)
    obtain ⟨value, reads⟩ := plain (UInt32.ofNat index) (by omega) (by omega)
    obtain ⟨events, found, skipped⟩ :=
      findIndex_step search bodies depth state reads count
    rw [PropertyKey.ofIndex_eq_decimal, number] at found skipped
    by_cases hit : Matches r object search (.decimal index)
    · refine ⟨_, events, found hit, .found ⟨?_, ?_⟩⟩
      · rw [number]
        exact ⟨Nat.le_refl _, by omega, hit⟩
      · rintro k ⟨low, -⟩
        rwa [number]
    · obtain ⟨result, events', ended, least⟩ := ih (r := { r with events }) (index + 1)
        (by omega) fun k low high =>
          (plain k (by omega) (by omega)).imp fun _ reads => reads.withEvents events
      refine ⟨result, events', (skipped hit).trans ended, least.congr fun k => ?_⟩
      -- the index that was passed over does not match
      constructor
      · rintro ⟨low, high, shown⟩
        exact ⟨by omega, by omega, shown⟩
      · rintro ⟨low, high, shown⟩
        have other : k ≠ index := by
          rintro rfl
          exact hit shown
        exact ⟨by omega, by omega, shown⟩

/-- The length is read once; then there is a loop if the range is not empty. -/
theorem indexOf_run {r' : Realm β} {v : Value} {fromIndex : Option Value}
    (answered : r.get object lengthKey (.object object) = (.done (.ok v), r')) :
    (indexOf object search fromIndex).run bodies depth ⟨r, state⟩ =
      if v.toUInt32 = 0 then some (.ok none, ⟨r', state⟩)
      else (searchStart? v.toUInt32 fromIndex).elim (some (.ok none, ⟨r', state⟩)) fun start =>
        (findIndex object search (v.toUInt32.toNat - start.toNat) start.toNat).run bodies depth
          ⟨r', state⟩ := by
  show ((lengthOf object).andThen _).run bodies depth ⟨r, state⟩ = _
  rw [Program.run_andThen, run_lengthOf bodies depth state answered]
  simp only [Option.bind_some]
  split
  · rfl
  · cases searchStart? v.toUInt32 fromIndex <;> rfl

end Loop

/-- Searching an object without accessors under its length and its indices.  What is found is the
least index of the range under which the chain shows a value that strictly equals the one searched
for; the event log is all that changes. -/
theorem indexOf_least {r : Realm β} {object : ObjectHandle} {v : Value}
    (length : r.ReadsPlainly object lengthKey v)
    (plain : ∀ k < v.toUInt32, ∃ value, r.ReadsPlainly object (.ofIndex k) value)
    (search : Value) (fromIndex : Option Value)
    (bodies : β → Value → List Value → Program β σ Value) (depth : Nat) (state : σ) :
    let len := v.toUInt32.toNat
    let Found := fun k : Nat => searchFrom len (fromNumber fromIndex) ≤ .finite k ∧ k < len ∧
      Matches r object search (.decimal k)
    ∃ found events, (indexOf object search fromIndex).run bodies depth ⟨r, state⟩ =
        some (.ok found, ⟨{ r with events }, state⟩) ∧
      (∀ k : UInt32, found = some k ↔ IsLeast {i | Found i} k.toNat) ∧
      (found = none ↔ ∀ k, ¬Found k) ∧
      (len = 0 ∨ .finite len ≤ fromNumber fromIndex → found = none) := by
  intro len Found
  have small : len < 2 ^ 32 := v.toUInt32.toNat_lt
  have nothing : len = 0 ∨ .finite len ≤ fromNumber fromIndex → ∀ k, ¬Found k := by
    rintro (empty | behind) k ⟨low, high, -⟩
    · omega
    · exact (searchFrom_le low behind).not_gt high
  obtain ⟨events, answered⟩ := length.get (.object object)
  obtain ⟨found, events', ended, least⟩ : ∃ found events',
      (indexOf object search fromIndex).run bodies depth ⟨r, state⟩ =
        some (.ok found, ⟨{ r with events := events' }, state⟩) ∧ Least Found found := by
    rw [indexOf_run search bodies depth state answered]
    by_cases empty : v.toUInt32 = 0
    · rw [if_pos empty]
      exact ⟨none, events, rfl, .missing (nothing (.inl (by simp [len, empty])))⟩
    · rw [if_neg empty]
      obtain ⟨behind, before⟩ := searchStart?_spec v.toUInt32 fromIndex
      by_cases outside : .finite len ≤ fromNumber fromIndex
      · rw [behind outside]
        exact ⟨none, events, rfl, .missing (nothing (.inr outside))⟩
      · obtain ⟨start, found, value⟩ := before outside
        rw [found]
        have started : start.toNat < 2 ^ 32 := start.toNat_lt
        obtain ⟨result, events', ended, least⟩ := findIndex_run search bodies depth state
          (r := { r with events }) (len - start.toNat) start.toNat (by omega)
          fun k low high => (plain k (UInt32.lt_iff_toNat_lt.2 (by omega))).imp
            fun _ reads => reads.withEvents events
        refine ⟨result, events', ended, least.congr fun k => ?_⟩
        have low : searchFrom len (fromNumber fromIndex) ≤ .finite k ↔ start.toNat ≤ k := by
          rw [← value, ExtendedInt.finite_le_finite, Int.ofNat_le]
        have high : start.toNat ≤ k → (k < start.toNat + (len - start.toNat) ↔ k < len) := by omega
        simp only [Found, low]
        exact and_congr_right fun reached => and_congr_left fun _ => high reached
  exact ⟨found, events', ended, least.eq_some_iff, least.eq_none_iff,
    fun outside => least.eq_none_iff.2 (nothing outside)⟩

/-- Two zeros with a hole between them: from the last index on, a positive zero finds the negative
one. -/
theorem indexOf_zero_from_end :
    let defined := fun (r : Realm Unit) key value =>
      (r.perform (.define ⟨5⟩ key (openFields value))).2
    let r := defined (defined (defined ((Realm.ofConfig {}).perform (.createObject none)).2
      lengthKey (.ofUInt32 3)) (.ofIndex 0) (.number (.zero false)))
      (.ofIndex 2) (.number (.zero true))
    let bodies : Unit → Value → List Value → Program Unit Unit Value :=
      fun _ _ _ => pure .undefined
    r.ReadsPlainly ⟨5⟩ lengthKey (.ofUInt32 3) ∧
      (∀ k < (Value.ofUInt32 3).toUInt32, ∃ value, r.ReadsPlainly ⟨5⟩ (.ofIndex k) value) ∧
      ∃ events, (indexOf ⟨5⟩ (.number (.zero false)) (some (.number (-.ofNat 1)))).run bodies 1
        ⟨r, ()⟩ = some (.ok (some 2), ⟨{ r with events }, ()⟩) := by
  intro defined r bodies
  have three : (Value.ofUInt32 3).toUInt32 = 3 := Double.toUInt32_ofNat 3
  obtain ⟨o, live, owned, zero, two⟩ : ∃ o, r.heap.get? ⟨5⟩ = some o ∧
      o.getOwn? lengthKey = some (.openData (.ofUInt32 3)) ∧
      o.getOwn? (.ofIndex 0) = some (.openData (.number (.zero false))) ∧
      o.getOwn? (.ofIndex 2) = some (.openData (.number (.zero true))) := ⟨_, rfl, rfl, rfl, rfl⟩
  have length : r.ReadsPlainly ⟨5⟩ lengthKey (.ofUInt32 3) :=
    .shown (Realm.shows_of_own live owned)
  have last := Realm.shows_of_own live two
  have plain : ∀ k < (Value.ofUInt32 3).toUInt32, ∃ value,
      r.ReadsPlainly ⟨5⟩ (.ofIndex k) value := by
    intro k inside
    rw [three, UInt32.lt_iff_toNat_lt] at inside
    obtain rfl | rfl | rfl : k = 0 ∨ k = 1 ∨ k = 2 := by
      simp only [← UInt32.toNat_inj, UInt32.reduceToNat] at inside ⊢
      omega
    · exact ⟨_, .shown (Realm.shows_of_own live zero)⟩
    · exact ⟨_, .absent rfl⟩
    · exact ⟨_, .shown last⟩
  obtain ⟨found, events, ended, found_iff, -⟩ := indexOf_least length plain (.number (.zero false))
    (some (.number (-.ofNat 1))) bodies 1 ()
  rw [three] at found_iff
  have integer : fromNumber (some (.number (-.ofNat 1))) = .finite (-1) := by
    have parts : (-Double.ofNat 1).parts = .finite true (2 ^ 52) (-52) := by decide
    show (-Double.ofNat 1).integer = _
    rw [Double.integer, parts]
    rfl
  have start : searchFrom 3 (fromNumber (some (.number (-.ofNat 1)))) = .finite 2 := by
    rw [integer]
    rfl
  have least := (found_iff 2).2 ⟨⟨start ▸ Int.le_refl 2, by decide, _, last, .zeros true false⟩,
    fun k ⟨low, _⟩ => Int.ofNat_le.1 (ExtendedInt.finite_le_finite.1 (start ▸ low))⟩
  rw [least] at ended
  exact ⟨length, plain, events, ended⟩

end ArrayLike

end ObjectModel
