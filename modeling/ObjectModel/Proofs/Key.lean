import Mathlib.Data.Nat.Digits.Defs
import ObjectModel.Key
import ObjectModel.Proofs.Digits

/-!
# Array indices among the keys

A key that has an index is the decimal text of that index (`eq_ofIndex_of_arrayIndex?`), so no two
keys share one, and the decimal text of a small number has it as its index (`arrayIndex?_decimal`).
Together they say that the keys with an index are the texts of the numbers up to `maxArrayIndex`
(`array_indices_are_canonical_decimals`).
-/

namespace ObjectModel.PropertyKey

/-- The decimal text of a number of any size. -/
def decimal (n : Nat) : PropertyKey := ⟨Nat.repr n⟩

theorem toList_decimal (n : Nat) : (decimal n).text.toList = Nat.toDigits 10 n := by
  simp [decimal, Nat.repr]

theorem ofIndex_eq_decimal (n : UInt32) : ofIndex n = decimal n.toNat := rfl

theorem decimal_inj {m n : Nat} : decimal m = decimal n ↔ m = n := by
  refine ⟨fun same => ?_, fun same => same ▸ rfl⟩
  have values := congrArg (fun key => digitsValue key.text.toList) same
  simpa [decimal, Nat.repr, digitsValue_toDigits] using values

theorem ofIndex_inj {m n : UInt32} : ofIndex m = ofIndex n ↔ m = n := by
  rw [ofIndex_eq_decimal, ofIndex_eq_decimal, decimal_inj, UInt32.toNat_inj]

theorem ne_decimal {key : PropertyKey} {c : Char} (member : c ∈ key.text.toList)
    (noDigit : c.isDigit = false) (n : Nat) : key ≠ decimal n := by
  rintro rfl
  rw [toList_decimal] at member
  have digit := allDigits_toDigits n c member
  rw [noDigit] at digit
  cases digit

/-- What the guards of `arrayIndex?` let pass: digits without a leading zero, of a small number. -/
theorem arrayIndex?_inv {key : PropertyKey} {n : UInt32} (index : key.arrayIndex? = some n) :
    LeadsWithDigit key.text.toList ∧ n.toNat = digitsValue key.text.toList := by
  simp only [arrayIndex?] at index
  split at index
  · cases index
  · next shaped =>
    simp only [not_or, Decidable.not_not] at shaped
    obtain ⟨some_, -, digits⟩ := shaped
    split at index
    · cases index
    · next lead =>
      split at index
      · cases index
      · next small =>
        cases index
        refine ⟨⟨by simpa using some_, List.all_eq_true.1 digits, fun zero => ?_⟩, ?_⟩
        · have : key.text.toList ≠ [] := by simpa using some_
          have : 0 < key.text.toList.length := List.length_pos_iff.2 this
          have : ¬1 < key.text.toList.length := fun more => lead ⟨more, zero⟩
          omega
        · unfold maxArrayIndex at small
          rw [UInt32.toNat_ofNat']
          omega

theorem eq_ofIndex_of_arrayIndex? {key : PropertyKey} {n : UInt32}
    (index : key.arrayIndex? = some n) : key = ofIndex n := by
  obtain ⟨leads, value⟩ := arrayIndex?_inv index
  obtain ⟨text⟩ := key
  have digits : Nat.toDigits 10 n.toNat = text.toList := by rw [value, toDigits_digitsValue leads]
  rw [ofIndex, Nat.repr, digits, String.ofList_toList]

theorem arrayIndex?_decimal {n : Nat} (small : n < 2 ^ 32 - 1) :
    (decimal n).arrayIndex? = some (UInt32.ofNat n) := by
  have leads := leadsWithDigit_toDigits n
  have short : (Nat.toDigits 10 n).length ≤ 10 :=
    Nat.toDigits_length 10 n 10 (by decide) (by omega)
  have shaped : ¬((Nat.toDigits 10 n).isEmpty ∨ 10 < (Nat.toDigits 10 n).length ∨
      ¬(Nat.toDigits 10 n).all Char.isDigit) := by
    rintro (empty | long | strange)
    · exact leads.nonempty (List.isEmpty_iff.1 empty)
    · omega
    · exact strange (List.all_eq_true.2 leads.digits)
  have canonical : ¬(1 < (Nat.toDigits 10 n).length ∧ (Nat.toDigits 10 n).head? = some '0') :=
    fun ⟨more, zero⟩ => Nat.ne_of_gt more (leads.lead zero)
  have inRange : ¬maxArrayIndex < n := by
    unfold maxArrayIndex
    omega
  simp only [arrayIndex?, toList_decimal, digitsValue_toDigits]
  rw [if_neg shaped, if_neg canonical, if_neg inRange]

theorem le_maxArrayIndex_of_arrayIndex? {key : PropertyKey} {n : UInt32}
    (index : key.arrayIndex? = some n) : n.toNat ≤ maxArrayIndex := by
  obtain ⟨-, value⟩ := arrayIndex?_inv index
  rw [value]
  by_contra large
  simp [arrayIndex?, Nat.lt_of_not_le large] at index

theorem arrayIndex?_ofIndex {n : UInt32} (small : n.toNat ≤ maxArrayIndex) :
    (ofIndex n).arrayIndex? = some n := by
  have inRange : n.toNat < 2 ^ 32 - 1 := Nat.lt_of_le_of_lt small (by decide)
  rw [ofIndex_eq_decimal, arrayIndex?_decimal inRange, UInt32.ofNat_toNat]

/-- The keys with an index are those that the numbers in range name. -/
theorem isArrayIndex_iff_decimal {key : PropertyKey} :
    key.isArrayIndex = true ↔ ∃ n ≤ maxArrayIndex, key = decimal n := by
  rw [isArrayIndex, Option.isSome_iff_exists]
  constructor
  · rintro ⟨n, index⟩
    exact ⟨n.toNat, le_maxArrayIndex_of_arrayIndex? index, eq_ofIndex_of_arrayIndex? index⟩
  · rintro ⟨n, small, rfl⟩
    exact ⟨_, arrayIndex?_decimal (Nat.lt_of_le_of_lt small (by decide))⟩

/-- Canonical decimals in range are all that has an index. -/
theorem isArrayIndex_iff {key : PropertyKey} : key.isArrayIndex = true ↔
    LeadsWithDigit key.text.toList ∧ digitsValue key.text.toList ≤ maxArrayIndex := by
  rw [isArrayIndex_iff_decimal]
  constructor
  · rintro ⟨n, small, rfl⟩
    rw [toList_decimal, digitsValue_toDigits]
    exact ⟨leadsWithDigit_toDigits n, small⟩
  · rintro ⟨leads, small⟩
    refine ⟨_, small, ?_⟩
    rw [decimal, Nat.repr, toDigits_digitsValue leads, String.ofList_toList]

/-- A key has the index `n` exactly if `n` is at most `2 ^ 32 - 2` and the key is the text that `n`
names.  A key has no index exactly if its text is empty, has a character that is no decimal digit
(a sign or a digit of another script, say), has a zero in front of other digits, or is too large a
number.  So two keys with one index are the same key, and every number but `2 ^ 32 - 1` is the index
of its own key. -/
theorem array_indices_are_canonical_decimals :
    (∀ (text : String) (n : UInt32), (PropertyKey.mk text).arrayIndex? = some n ↔
      n.toNat ≤ 2 ^ 32 - 2 ∧ text = (ofIndex n).text) ∧
    (∀ text : String, (PropertyKey.mk text).arrayIndex? = none ↔
      text = "" ∨ (∃ c ∈ text.toList, c.isDigit = false) ∨
        (∃ c rest, text.toList = '0' :: c :: rest) ∨ 2 ^ 32 - 2 < digitsValue text.toList) ∧
    (∀ (key key' : PropertyKey) (n : UInt32), key.arrayIndex? = some n →
      key'.arrayIndex? = some n → key = key') ∧
    ∀ n : UInt32, (ofIndex n).arrayIndex? = some n ↔ n ≠ 4294967295 := by
  refine ⟨fun text n => ⟨fun index => ?_, ?_⟩, fun text => ?_, fun key key' n index index' => ?_,
    fun n => ?_⟩
  · exact ⟨le_maxArrayIndex_of_arrayIndex? index,
      congrArg PropertyKey.text (eq_ofIndex_of_arrayIndex? index)⟩
  · rintro ⟨small, rfl⟩
    exact arrayIndex?_ofIndex small
  · have named : text.toList = [] ↔ text = "" := String.toList_eq_nil_iff
    have refused : (PropertyKey.mk text).arrayIndex? = none ↔
        ¬(PropertyKey.mk text).isArrayIndex = true := by
      rw [isArrayIndex, Bool.not_eq_true, Option.isSome_eq_false_iff, Option.isNone_iff_eq_none]
    rw [refused, isArrayIndex_iff, leadsWithDigit_iff, ← named]
    simp only [AllDigits, maxArrayIndex]
    grind
  · rw [eq_ofIndex_of_arrayIndex? index, eq_ofIndex_of_arrayIndex? index']
  · refine ⟨?_, fun other => arrayIndex?_ofIndex ?_⟩
    · rintro index rfl
      exact absurd (le_maxArrayIndex_of_arrayIndex? index) (by decide)
    · have bounded := n.toNat_lt
      have apart : n.toNat ≠ 4294967295 := fun same => other (UInt32.toNat.inj same)
      unfold maxArrayIndex
      omega

/-- The largest index, between a text with a zero in front and the number above. -/
theorem largest_array_index :
    (PropertyKey.mk "4294967294").arrayIndex? = some 4294967294 ∧
    (ofIndex 4294967294).arrayIndex? = some 4294967294 ∧
    ofIndex 4294967294 = ⟨"4294967294"⟩ ∧
    (PropertyKey.mk "04294967294").arrayIndex? = none ∧
    (PropertyKey.mk "4294967295").arrayIndex? = none := by
  obtain ⟨named, refused, same, own⟩ := array_indices_are_canonical_decimals
  have index : (PropertyKey.mk "4294967294").arrayIndex? = some 4294967294 :=
    (named _ _).2 ⟨by decide, by decide⟩
  have index' : (ofIndex 4294967294).arrayIndex? = some 4294967294 := (own _).2 (by decide)
  refine ⟨index, index', same _ _ _ index' index, (refused _).2 ?_, (refused _).2 ?_⟩
  · exact .inr (.inr (.inl ⟨'4', "294967294".toList, by decide⟩))
  · exact .inr (.inr (.inr (by decide)))

end ObjectModel.PropertyKey
