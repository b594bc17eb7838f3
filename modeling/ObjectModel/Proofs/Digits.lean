import Mathlib.Data.List.Basic
import Mathlib.Data.List.Induction
import ObjectModel.EventLog
import ObjectModel.Number.Numeral

/-!
# Decimal digits

The digits of a number read back as the number (`digitsValue_toDigits`), also behind leading zeros,
so a number can be told from its padded text (`zeroPadded_injective`), which has no more zeros than
the width asks for (`paddedDigits_zeroPadded`).  Digits that no zero leads are the only ones of
their number (`toDigits_digitsValue`).
-/

namespace ObjectModel

theorem digitsValue_toDigits (n : Nat) : digitsValue (Nat.toDigits 10 n) = n :=
  Nat.ofDigitChars_ten_toDigits

theorem digitsValue_leadingZeros (k : Nat) (cs : List Char) :
    digitsValue (List.replicate k '0' ++ cs) = digitsValue cs := by
  show Nat.ofDigitChars 10 (List.replicate k '0' ++ cs) 0 = Nat.ofDigitChars 10 cs 0
  rw [Nat.ofDigitChars_append, Nat.ofDigitChars_replicate_zero, Nat.mul_zero]

theorem digitsValue_zeroPadded (width n : Nat) :
    digitsValue (zeroPadded width n).toList = n := by
  simp only [zeroPadded, String.toList_ofList, digitsValue_leadingZeros, digitsValue_toDigits]

theorem zeroPadded_injective {width m n : Nat} (same : zeroPadded width m = zeroPadded width n) :
    m = n := by
  rw [← digitsValue_zeroPadded width m, same, digitsValue_zeroPadded]

/-! ## Digits without leading zeros -/

/-- Digits and nothing else. -/
def AllDigits (cs : List Char) : Prop := ∀ c ∈ cs, c.isDigit = true

/-- The digits of a number, led by as many zeros as it takes to fill the width. -/
structure PaddedDigits (width n : Nat) (cs : List Char) : Prop where
  digits : AllDigits cs
  value : Nat.ofDigitChars 10 cs 0 = n
  filled : width ≤ cs.length
  /-- What is longer than the width has no zero in front. -/
  noMore : width < cs.length → cs.head? ≠ some '0'

/-- Digits, of which the first is not a zero unless it is the only one. -/
structure LeadsWithDigit (cs : List Char) : Prop where
  nonempty : cs ≠ []
  digits : AllDigits cs
  lead : cs.head? = some '0' → cs.length = 1

theorem leadsWithDigit_iff {cs : List Char} : LeadsWithDigit cs ↔
    cs ≠ [] ∧ AllDigits cs ∧ ¬ ∃ c rest, cs = '0' :: c :: rest := by
  constructor
  · rintro ⟨nonempty, digits, lead⟩
    refine ⟨nonempty, digits, ?_⟩
    rintro ⟨c, rest, rfl⟩
    exact absurd (lead rfl) (by simp)
  · rintro ⟨nonempty, digits, unpadded⟩
    refine ⟨nonempty, digits, fun zero => ?_⟩
    cases cs with
    | nil => cases zero
    | cons first others =>
      cases others with
      | nil => rfl
      | cons c rest =>
        cases zero
        exact absurd ⟨c, rest, rfl⟩ unpadded

theorem AllDigits.append {cs ds : List Char} (first : AllDigits cs) (second : AllDigits ds) :
    AllDigits (cs ++ ds) := by
  intro c member
  exact (List.mem_append.1 member).elim (first c) (second c)

theorem AllDigits.zeros (count : Nat) : AllDigits (List.replicate count '0') := by
  intro c member
  rw [List.eq_of_mem_replicate member]
  rfl

theorem LeadsWithDigit.take {cs : List Char} (leads : LeadsWithDigit cs) {count : Nat}
    (some_ : 0 < count) : LeadsWithDigit (cs.take count) where
  nonempty none := by
    rw [List.take_eq_nil_iff] at none
    exact none.elim (Nat.ne_of_gt some_) leads.nonempty
  digits c member := leads.digits c (List.mem_of_mem_take member)
  lead leadsZero := by
    rw [List.head?_take, if_neg (Nat.ne_of_gt some_)] at leadsZero
    rw [List.length_take, leads.lead leadsZero]
    exact Nat.min_eq_right some_

theorem allDigits_toDigits (n : Nat) : AllDigits (Nat.toDigits 10 n) :=
  fun _ member => Nat.isDigit_of_mem_toDigits (by decide) (by decide) member

/-- Only zero has a zero in front. -/
theorem toDigits_head {n : Nat} (positive : n ≠ 0) : (Nat.toDigits 10 n).head? ≠ some '0' := by
  induction n using Nat.base_induction 10 (by decide) with
  | single m small =>
    rw [Nat.toDigits_of_lt_base small, List.head?_cons, ne_eq, Option.some.injEq,
      Nat.digitChar_eq_zero]
    exact positive
  | digit m k small leading ih =>
    rw [← Nat.toDigits_append_toDigits (by decide) leading small,
      List.head?_append_of_ne_nil _ Nat.toDigits_ne_nil]
    exact ih (by omega)

theorem leadsWithDigit_toDigits (n : Nat) : LeadsWithDigit (Nat.toDigits 10 n) where
  nonempty := Nat.toDigits_ne_nil
  digits := allDigits_toDigits n
  lead leads := by
    by_cases zero : n = 0
    · rw [zero, Nat.toDigits_zero]
      rfl
    · exact absurd leads (toDigits_head zero)

theorem paddedDigits_zeroPadded (width : Nat) {n : Nat} (positive : n ≠ 0) :
    PaddedDigits width n (zeroPadded width n).toList := by
  have text : (zeroPadded width n).toList =
      List.replicate (width - (Nat.toDigits 10 n).length) '0' ++ Nat.toDigits 10 n :=
    String.toList_ofList
  constructor
  case value => exact digitsValue_zeroPadded width n
  case digits =>
    rw [text]
    exact (AllDigits.zeros _).append (allDigits_toDigits n)
  case filled =>
    rw [text, List.length_append, List.length_replicate]
    omega
  case noMore =>
    intro longer
    rw [text, List.length_append, List.length_replicate] at longer
    have noZeros : width - (Nat.toDigits 10 n).length = 0 := by omega
    rw [text, noZeros]
    exact toDigits_head positive

theorem digitChar_of_isDigit {c : Char} (digit : c.isDigit = true) :
    c.toNat - '0'.toNat < 10 ∧ Nat.digitChar (c.toNat - '0'.toNat) = c := by
  obtain ⟨low, high⟩ := Char.isDigit_iff_toNat.1 digit
  have low : 48 ≤ c.toNat := low
  have high : c.toNat ≤ 57 := high
  have zero : '0'.toNat = 48 := rfl
  rw [zero]
  refine ⟨by omega, ?_⟩
  apply Char.toNat_inj.1
  rw [Nat.toNat_digitChar_of_lt_ten (by omega)]
  omega

theorem toDigits_digitsValue {cs : List Char} (leads : LeadsWithDigit cs) :
    Nat.toDigits 10 (digitsValue cs) = cs := by
  induction cs using List.reverseRecOn with
  | nil => exact absurd rfl leads.nonempty
  | append_singleton front c ih =>
    obtain ⟨small, char⟩ := digitChar_of_isDigit (leads.digits c (by simp))
    have value : digitsValue (front ++ [c]) = 10 * digitsValue front + (c.toNat - '0'.toNat) := by
      simp [digitsValue]
    by_cases nothing : front = []
    · subst nothing
      have only : digitsValue ([] ++ [c]) = c.toNat - '0'.toNat := by simp [digitsValue]
      rw [only, Nat.toDigits_of_lt_base small, char]
      rfl
    · -- there is more than one digit, so the first one is not zero, in front of the last as well
      have notZero : front.head? ≠ some '0' := by
        intro zero
        have one := leads.lead (by rw [List.head?_append_of_ne_nil _ nothing, zero])
        simp at one
        exact nothing one
      have before := ih ⟨nothing, fun d member => leads.digits d (by simp [member]),
        fun zero => absurd zero notZero⟩
      have positive : 0 < digitsValue front := by
        apply Nat.pos_of_ne_zero
        intro zero
        rw [zero, Nat.toDigits_zero] at before
        rw [← before] at notZero
        exact notZero rfl
      rw [value, ← Nat.toDigits_append_toDigits (by decide) positive small, before,
        Nat.toDigits_of_lt_base small, char]

end ObjectModel
