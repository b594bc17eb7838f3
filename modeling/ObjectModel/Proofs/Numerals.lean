import ObjectModel.Json.Number
import ObjectModel.Json.Reader
import ObjectModel.Proofs.Digits
import ObjectModel.Proofs.Rounding

/-!
# Numerals that are written are read back

A numeral that is written for a number is well formed: there are digits before the point and no
zero leads them (`NumberLayout.numeral_wellFormed`, because the digits of a shortest decimal are
not zero).  A reader of JSON reads a well-formed numeral back (`Reader.number_chars`), in which the
digits and the mark before each part tell where it ends.

A numeral of a natural number is read as that number (`Numeral.toNat?_ofNat`) and, since it is not
out of range, as some double (`Numeral.toDouble?_ofNat`).
-/

namespace ObjectModel

/-! ## Well-formed numerals -/

namespace Numeral

/-- An exponent is absent, or has digits behind its sign. -/
inductive IsExponent : List Char → Prop where
  | absent : IsExponent []
  | unmarked {digits} (nonempty : digits ≠ []) (all : AllDigits digits) : IsExponent digits
  | plus {digits} (nonempty : digits ≠ []) (all : AllDigits digits) : IsExponent ('+' :: digits)
  | minus {digits} (nonempty : digits ≠ []) (all : AllDigits digits) : IsExponent ('-' :: digits)

/-- A numeral as JSON has them. -/
structure WellFormed (n : Numeral) : Prop where
  whole : LeadsWithDigit n.whole
  fraction : AllDigits n.fraction
  exponent : IsExponent n.exponent

theorem ofNat_wellFormed (n : Nat) : (ofNat n).WellFormed where
  whole := leadsWithDigit_toDigits n
  fraction := nofun
  exponent := .absent

end Numeral

/-! ## Shortest decimals -/

theorem Decimal.stripZeros_digits {fuel : Nat} {d : Decimal} (positive : d.digits ≠ 0) :
    (stripZeros fuel d).digits ≠ 0 := by
  induction fuel generalizing d with
  | zero => exact positive
  | succ fuel ih =>
    rw [stripZeros]
    split
    · next zero =>
      apply ih
      dsimp only
      omega
    · exact positive

namespace Double

theorem roundingInterval_low {m : Nat} (positive : m ≠ 0) (q : Int) :
    0 < (roundingInterval m q).1 := by
  unfold roundingInterval
  dsimp only
  split <;> omega

/-- Zero does not round to a positive number. -/
theorem decimalOfCount?_digits {tie : Tie} {m : Nat} {q lead : Int} {count : Nat} {d : Decimal}
    (positive : m ≠ 0) (found : decimalOfCount? tie m q lead count = some d) : d.digits ≠ 0 := by
  unfold decimalOfCount? at found
  dsimp only at found
  have unitPositive : 0 < 10 ^ (-(lead + 1 - (count : Int))).toNat * 2 ^ (q - 2).toNat :=
    Nat.mul_pos (Nat.pow_pos (by decide)) (Nat.two_pow_pos _)
  have lowPositive := Nat.mul_pos (roundingInterval_low positive q) unitPositive
  generalize 10 ^ (-(lead + 1 - (count : Int))).toNat * 2 ^ (q - 2).toNat = unit at *
  generalize 10 ^ (lead + 1 - (count : Int)).toNat * 2 ^ (2 - q).toNat = grid at *
  -- the lower neighbour fits only above the lower end of the interval, the upper one is not zero
  have belowFits : ∀ below, (if m % 2 = 0 then (roundingInterval m q).1 * unit ≤ below * grid
      else (roundingInterval m q).1 * unit < below * grid) → below ≠ 0 := by
    rintro _ fits rfl
    split at fits <;> omega
  obtain ⟨⟨fits, -⟩, same⟩ | ⟨-, found⟩ := ite_eq_iff.1 found
  · cases same
    exact belowFits _ fits
  · obtain ⟨-, same⟩ | ⟨-, found⟩ := ite_eq_iff.1 found
    · cases same
      exact Nat.succ_ne_zero _
    · cases found

theorem shortestOf_digits (tie : Tie) {m : Nat} (positive : m ≠ 0) (q : Int) :
    (shortestOf tie m q).digits ≠ 0 := by
  unfold shortestOf
  dsimp only
  apply Decimal.stripZeros_digits
  cases found : (List.range 17).findSome? fun k =>
      decimalOfCount? tie m q (floorLog10 (descale m 1 (-q)).1 (descale m 1 (-q)).2) (k + 1) with
  | none => exact positive
  | some d =>
    obtain ⟨k, -, atK⟩ := List.exists_of_findSome?_eq_some found
    exact decimalOfCount?_digits positive atK

end Double

namespace NumberLayout

theorem positional_wellFormed (layout : NumberLayout) (negative : Bool) {d : Decimal}
    (positive : d.digits ≠ 0 ∨ d.exponent = 0) : (layout.positional negative d).WellFormed := by
  have digits := allDigits_toDigits d.digits
  have leads := leadsWithDigit_toDigits d.digits
  unfold positional
  dsimp only [Decimal.text]
  split
  · refine ⟨?_, ?_, .absent⟩
    · refine ⟨by simp, digits.append (.zeros _), fun leadsZero => ?_⟩
      -- zeros may follow unless the digits are a zero themselves
      rw [List.head?_append_of_ne_nil _ Nat.toDigits_ne_nil] at leadsZero
      obtain positive | zero := positive
      · exact absurd leadsZero (toDigits_head positive)
      · rw [zero, Int.toNat_zero, List.replicate_zero, List.append_nil]
        exact leads.lead leadsZero
    · dsimp only
      split
      · intro c member
        rw [List.mem_singleton.1 member]
        rfl
      · exact nofun
  · split
    · next inside =>
      exact ⟨leads.take (Nat.sub_pos_of_lt inside),
        fun c member => digits c (List.mem_of_mem_drop member), .absent⟩
    · refine ⟨⟨nofun, ?_, fun _ => rfl⟩, (AllDigits.zeros _).append digits, .absent⟩
      intro c member
      rw [List.mem_singleton.1 member]
      rfl

theorem exponential_wellFormed (layout : NumberLayout) (negative : Bool) (d : Decimal) :
    (layout.exponential negative d).WellFormed := by
  refine ⟨(leadsWithDigit_toDigits d.digits).take Nat.one_pos,
    fun c member => allDigits_toDigits d.digits c (List.mem_of_mem_drop member), ?_⟩
  have digits := allDigits_toDigits d.leading.natAbs
  dsimp only [exponential]
  split
  · exact .minus Nat.toDigits_ne_nil digits
  · split
    · exact .plus Nat.toDigits_ne_nil digits
    · exact .unmarked Nat.toDigits_ne_nil digits

theorem numeral_wellFormed (layout : NumberLayout) (negative : Bool) (m : Nat) (q : Int) :
    (layout.numeral negative m q).WellFormed := by
  unfold numeral
  split
  · exact layout.positional_wellFormed negative (.inr rfl)
  · next positive =>
    dsimp only
    split
    · exact layout.positional_wellFormed negative (.inl (Double.shortestOf_digits _ positive q))
    · exact layout.exponential_wellFormed negative _

end NumberLayout

theorem Double.toJsonNumeral?_wellFormed {x : Double} {n : Numeral}
    (written : x.toJsonNumeral? = some n) : n.WellFormed := by
  unfold toJsonNumeral? at written
  split at written
  · cases written
    exact NumberLayout.json.numeral_wellFormed ..
  · cases written

/-! ## Reading numerals -/

namespace Json.Reader

/-- The characters that stay behind a value: none, or what separates or closes. -/
def EndsValue (rest : List Char) : Prop :=
  ∀ c, rest.head? = some c → c = ',' ∨ c = ']' ∨ c = '}'

/-- The characters do not go on with a digit. -/
def NoDigit (rest : List Char) : Prop := ∀ c, rest.head? = some c → c.isDigit = false

theorem EndsValue.noDigit {rest : List Char} (ends : EndsValue rest) : NoDigit rest := by
  intro c head
  obtain rfl | rfl | rfl := ends c head <;> rfl

theorem noDigit_cons {c : Char} (noDigit : c.isDigit = false) (rest : List Char) :
    NoDigit (c :: rest) := by
  rintro _ ⟨⟩
  exact noDigit

section Digits

variable {digits rest : List Char} (all : AllDigits digits) (ends : NoDigit rest)

include all ends

theorem takeWhile_digits : (digits ++ rest).takeWhile Char.isDigit = digits := by
  rw [List.takeWhile_append_of_pos all]
  cases rest with
  | nil => rw [List.takeWhile_nil, List.append_nil]
  | cons c cs =>
    rw [List.takeWhile_cons_of_neg (by rw [ends c rfl]; decide), List.append_nil]

theorem dropWhile_digits : (digits ++ rest).dropWhile Char.isDigit = rest := by
  rw [List.dropWhile_append_of_pos all]
  cases rest with
  | nil => rfl
  | cons c cs => rw [List.dropWhile_cons_of_neg (by rw [ends c rfl]; decide)]

end Digits

/-! ### The parts of a number -/

/-- The sign in front of a number. -/
def signPart : List Char → Bool × List Char
  | '-' :: rest => (true, rest)
  | rest => (false, rest)

/-- The digits behind a point. -/
def fractionPart : List Char → Option (List Char × List Char)
  | '.' :: rest =>
    let digits := rest.takeWhile Char.isDigit
    if digits.isEmpty then none else some (digits, rest.dropWhile Char.isDigit)
  | rest => some ([], rest)

/-- The exponent behind its mark. -/
def exponentPart : List Char → Option (List Char × List Char)
  | 'e' :: rest => exponentBody rest
  | 'E' :: rest => exponentBody rest
  | rest => some ([], rest)

/-- The digits of an exponent behind its sign. -/
def exponentDigits (sign rest : List Char) : Option (List Char × List Char) :=
  let digits := rest.takeWhile Char.isDigit
  if digits.isEmpty then none else some (sign ++ digits, rest.dropWhile Char.isDigit)

theorem fractionPart_marked (rest : List Char) :
    fractionPart ('.' :: rest) =
      if (rest.takeWhile Char.isDigit).isEmpty then none
      else some (rest.takeWhile Char.isDigit, rest.dropWhile Char.isDigit) :=
  rfl

theorem fractionPart_unmarked {cs : List Char} (unmarked : ∀ rest, cs ≠ '.' :: rest) :
    fractionPart cs = some ([], cs) := by
  unfold fractionPart
  split
  · exact absurd rfl (unmarked _)
  · rfl

theorem exponentPart_unmarked {cs : List Char} (unmarked : ∀ rest, cs ≠ 'e' :: rest)
    (unmarked' : ∀ rest, cs ≠ 'E' :: rest) : exponentPart cs = some ([], cs) := by
  unfold exponentPart
  split
  · exact absurd rfl (unmarked _)
  · exact absurd rfl (unmarked' _)
  · rfl

theorem number_eq_parts (cs : List Char) :
    number cs =
      let whole := (signPart cs).2.takeWhile Char.isDigit
      if whole.isEmpty ∨ (whole.head? = some '0' ∧ 1 < whole.length) then none
      else do
        let (fraction, rest) ← fractionPart ((signPart cs).2.dropWhile Char.isDigit)
        let (exponent, rest) ← exponentPart rest
        return (⟨(signPart cs).1, whole, fraction, exponent⟩, rest) := by
  unfold number
  split
  next negative cs' sign =>
    rw [show signPart cs = (negative, cs') from sign]
    dsimp only
    split
    · rfl
    · split
      · next digits dropped =>
        rw [dropped, fractionPart_marked]
        split
        · rfl
        · dsimp only [bind, Option.bind]
          split
          · next marked => rw [marked]; rfl
          · next marked => rw [marked]; rfl
          · next unmarked unmarked' => rw [exponentPart_unmarked unmarked unmarked']
      · next unmarked =>
        rw [fractionPart_unmarked unmarked]
        dsimp only [bind, Option.bind]
        split
        · next marked => rw [marked]; rfl
        · next marked => rw [marked]; rfl
        · next unmarked unmarked' => rw [exponentPart_unmarked unmarked unmarked']

/-! ### Numbers that are written -/

theorem signPart_sign (negative : Bool) {body : List Char} (leads : LeadsWithDigit body)
    (rest : List Char) :
    signPart ((if negative then ['-'] else []) ++ (body ++ rest)) = (negative, body ++ rest) := by
  cases negative with
  | true => rfl
  | false =>
    obtain ⟨c, cs, rfl⟩ := List.exists_cons_of_ne_nil leads.nonempty
    have digit := leads.digits c List.mem_cons_self
    show signPart (c :: (cs ++ rest)) = (false, c :: (cs ++ rest))
    unfold signPart
    split
    · next same =>
      cases same
      cases digit
    · rfl

theorem fractionPart_fraction {fraction rest : List Char} (all : AllDigits fraction)
    (ends : NoDigit rest) (unmarked : ∀ after, rest ≠ '.' :: after) :
    fractionPart ((if fraction.isEmpty then [] else '.' :: fraction) ++ rest) =
      some (fraction, rest) := by
  cases fraction with
  | nil => exact fractionPart_unmarked unmarked
  | cons c cs =>
    show fractionPart ('.' :: (c :: cs ++ rest)) = _
    rw [fractionPart_marked, takeWhile_digits all ends, dropWhile_digits all ends]
    rfl

theorem noDigit_fraction (fraction : List Char) {rest : List Char} (ends : NoDigit rest) :
    NoDigit ((if fraction.isEmpty then [] else '.' :: fraction) ++ rest) := by
  cases fraction with
  | nil => exact ends
  | cons c cs => exact noDigit_cons rfl _

theorem exponentDigits_digits (sign : List Char) {digits rest : List Char} (nonempty : digits ≠ [])
    (all : AllDigits digits) (ends : NoDigit rest) :
    exponentDigits sign (digits ++ rest) = some (sign ++ digits, rest) := by
  rw [exponentDigits, takeWhile_digits all ends, dropWhile_digits all ends,
    if_neg (by rwa [List.isEmpty_iff])]

theorem exponentBody_exponent {exponent rest : List Char} (isExponent : Numeral.IsExponent exponent)
    (some_ : exponent ≠ []) (ends : NoDigit rest) :
    exponentBody (exponent ++ rest) = some (exponent, rest) := by
  cases isExponent with
  | absent => exact absurd rfl some_
  | plus nonempty all => exact exponentDigits_digits ['+'] nonempty all ends
  | minus nonempty all => exact exponentDigits_digits ['-'] nonempty all ends
  | unmarked nonempty all =>
    have body : exponentBody (exponent ++ rest) = exponentDigits [] (exponent ++ rest) := by
      obtain ⟨c, cs, rfl⟩ := List.exists_cons_of_ne_nil nonempty
      have digit := all c List.mem_cons_self
      unfold exponentBody
      split
      next sign after signed =>
        -- a digit is no sign
        split at signed
        · next same => cases same; cases digit
        · next same => cases same; cases digit
        · cases signed
          rfl
    rw [body]
    exact exponentDigits_digits [] nonempty all ends

theorem exponentPart_exponent {exponent rest : List Char} (isExponent : Numeral.IsExponent exponent)
    (ends : EndsValue rest) :
    exponentPart ((if exponent.isEmpty then [] else 'e' :: exponent) ++ rest) =
      some (exponent, rest) := by
  cases exponent with
  | nil =>
    have unmarked : ∀ c after, rest = c :: after → c ≠ 'e' ∧ c ≠ 'E' := by
      rintro c after rfl
      obtain rfl | rfl | rfl := ends c rfl <;> decide
    exact exponentPart_unmarked (fun after same => (unmarked 'e' after same).1 rfl)
      fun after same => (unmarked 'E' after same).2 rfl
  | cons c cs =>
    show exponentBody ((c :: cs) ++ rest) = _
    exact exponentBody_exponent isExponent nofun ends.noDigit

theorem noDigit_exponent (exponent : List Char) {rest : List Char} (ends : EndsValue rest) :
    NoDigit ((if exponent.isEmpty then [] else 'e' :: exponent) ++ rest) := by
  cases exponent with
  | nil => exact ends.noDigit
  | cons c cs => exact noDigit_cons rfl _

theorem noPoint_exponent (exponent : List Char) {rest : List Char} (ends : EndsValue rest) :
    ∀ after, (if exponent.isEmpty then [] else 'e' :: exponent) ++ rest ≠ '.' :: after := by
  intro after same
  cases exponent with
  | nil =>
    obtain rfl : rest = '.' :: after := same
    obtain ⟨⟨⟩⟩ | ⟨⟨⟩⟩ | ⟨⟨⟩⟩ := ends '.' rfl
  | cons c cs => cases same

/-- A reader reads a number as far as it goes. -/
theorem number_chars {n : Numeral} (wellFormed : n.WellFormed) {rest : List Char}
    (ends : EndsValue rest) : number (n.chars ++ rest) = some (n, rest) := by
  obtain ⟨negative, whole, fraction, exponent⟩ := n
  obtain ⟨leads, fractionDigits, isExponent⟩ := wellFormed
  dsimp only at leads fractionDigits isExponent
  have behindExponent := noDigit_exponent exponent ends
  have behindFraction := noDigit_fraction fraction behindExponent
  rw [number_eq_parts, Numeral.chars]
  simp only [List.append_assoc]
  rw [signPart_sign negative leads]
  dsimp only
  rw [takeWhile_digits leads.digits behindFraction, dropWhile_digits leads.digits behindFraction,
    if_neg, fractionPart_fraction fractionDigits behindExponent (noPoint_exponent exponent ends)]
  · dsimp only [bind, Option.bind]
    rw [exponentPart_exponent isExponent ends]
    rfl
  · rintro (none | ⟨zero, more⟩)
    · exact leads.nonempty (List.isEmpty_iff.1 none)
    · rw [leads.lead zero] at more
      exact absurd more (Nat.lt_irrefl 1)

end Json.Reader

/-! ## Natural numbers -/

namespace Numeral

theorem toNat?_ofNat {n : Nat} (small : n < 2 ^ 64) : (ofNat n).toNat? = some n := by
  simp only [toNat?, ofNat, digitsValue_toDigits, if_pos small]
  rfl

theorem le_ofDigitChars (cs : List Char) (start : Nat) : start ≤ Nat.ofDigitChars 10 cs start := by
  induction cs generalizing start with
  | nil => exact Nat.le_of_eq Nat.ofDigitChars_nil.symm
  | cons c cs ih =>
    rw [Nat.ofDigitChars_cons]
    exact Nat.le_trans (by omega) (ih _)

/-- All digits go into the significand if there is room for all. -/
theorem extend_digits {cs : List Char} {start : Nat}
    (small : Nat.ofDigitChars 10 cs start < 2 ^ 64) :
    extend start cs = (Nat.ofDigitChars 10 cs start, cs.length) := by
  induction cs generalizing start with
  | nil => rfl
  | cons c cs ih =>
    rw [Nat.ofDigitChars_cons] at small ⊢
    have fits := Nat.lt_of_le_of_lt (le_ofDigitChars cs _) small
    rw [extend]
    dsimp only
    rw [if_pos fits, ih small]
    rfl

theorem significand_ofNat {n : Nat} (small : n < 2 ^ 64) : (ofNat n).significand = (n, 0) := by
  have digits : Nat.ofDigitChars 10 (Nat.toDigits 10 n) 0 = n := Nat.ofDigitChars_ten_toDigits
  have extended : extend 0 (Nat.toDigits 10 n) = (n, (Nat.toDigits 10 n).length) := by
    rw [extend_digits (by rwa [digits]), digits]
  unfold significand ofNat
  dsimp only
  rw [extended]
  show (n, ((Nat.toDigits 10 n).length : Int) - (Nat.toDigits 10 n).length - 0) = (n, 0)
  rw [Int.sub_self, Int.sub_zero]

theorem powerOfTen_zero : (powerOfTen 0).parts = .finite false (2 ^ 52) (-52) := by decide +kernel

/-- A power of ten leaves natural numbers of 64 bits finite. -/
theorem isFinite_ofNat_mul {n : Nat} (small : n < 2 ^ 64) :
    (Double.ofNat n * powerOfTen 0).isFinite = true := by
  obtain ⟨finite, scale⟩ := Double.ofNat_small small
  have below := (Double.ofNat n).significand_lt
  show ((Double.ofNat n).mul (powerOfTen 0)).isFinite = true
  rw [Double.mul, Double.parts_of_finite finite, powerOfTen_zero]
  dsimp only
  rw [Double.ofScaled, if_neg (by omega)]
  refine Double.isFinite_nearest (k := 105) _ ?_ (by decide)
  calc (Double.ofNat n).significand * 2 ^ 52 < 2 ^ 53 * 2 ^ 52 :=
        Nat.mul_lt_mul_of_pos_right below (Nat.two_pow_pos 52)
    _ = 2 ^ 105 * 1 := by decide
    _ ≤ 2 ^ 105 * 2 ^ (-((Double.ofNat n).scale + -52)).toNat :=
        Nat.mul_le_mul_left _ (Nat.two_pow_pos _)

/-- A natural number of 64 bits is read as a double. -/
theorem toDouble?_ofNat {n : Nat} (small : n < 2 ^ 64) : (ofNat n).toDouble?.isSome = true := by
  unfold toDouble?
  rw [significand_ofNat small]
  dsimp only
  rw [Option.isSome_map]
  split
  · rfl
  · have exponent : (0 : Int) + (ofNat n).exponentValue = 0 := rfl
    rw [exponent, timesPowerOfTen?, if_pos (by decide), if_pos (by decide)]
    dsimp only
    rw [Int.toNat_zero, if_pos (isFinite_ofNat_mul small)]
    rfl

/-! ## Numerals stand for finite numbers -/

theorem powerOfTen_bounds : ∀ k ≤ 308,
    (powerOfTen k).isFinite = true ∧ 1023 * 2 ^ 52 ≤ (powerOfTen k).magnitude := by
  decide +kernel

theorem extend_lt (cs : List Char) {start : Nat} (small : start < 2 ^ 64) :
    (extend start cs).1 < 2 ^ 64 := by
  induction cs generalizing start with
  | nil => exact small
  | cons c cs ih =>
    rw [extend]
    dsimp only
    split
    · next fits => exact ih fits
    · exact small

theorem significand_lt (n : Numeral) : n.significand.1 < 2 ^ 64 :=
  extend_lt n.fraction (extend_lt n.whole (by decide))

/-- Each division by a power of ten may round up to the next power of two, and there are few of
them. -/
theorem timesPowerOfTen?_isFinite {steps : Nat} {x y : Double} {exponent : Int} {k : Nat}
    (small : x.magnitude ≤ (k + 1023) * 2 ^ 52) (inRange : k + steps ≤ 1022)
    (result : timesPowerOfTen? steps x exponent = some y) : y.isFinite = true := by
  have divided : ∀ {x : Double} {k j : Nat}, x.magnitude ≤ (k + 1023) * 2 ^ 52 → k ≤ 1022 →
      j ≤ 308 → (x / powerOfTen j).magnitude ≤ (k + 1024) * 2 ^ 52 := by
    intro x k j small few near
    obtain ⟨finite, large⟩ := powerOfTen_bounds j near
    exact Double.magnitude_div_le small few finite large
  fun_induction timesPowerOfTen? steps x exponent generalizing k with
  | case1 =>
    rename_i finite
    rw [← Option.some.inj result]
    exact finite
  | case2 => cases result
  | case3 steps x exponent near negative =>
    cases result
    have bounded := divided (j := (-exponent).toNat) small (by omega) (by omega)
    rw [Double.isFinite, decide_eq_true_eq, Double.infiniteMagnitude]
    omega
  | case4 steps x exponent far zero =>
    cases result
    rw [Double.isZero, decide_eq_true_eq] at zero
    rw [Double.isFinite, decide_eq_true_eq, zero]
    decide
  | case5 => cases result
  | case6 =>
    cases result
    decide
  | case7 x exponent far nonzero negative steps ih =>
    have bounded := divided (j := 308) small (by omega) (by decide)
    exact ih (k := k + 1) bounded (by omega) result

/-- No numeral stands for an infinity or a not-a-number. -/
theorem toDouble?_isFinite {n : Numeral} {x : Double} (read : n.toDouble? = some x) :
    x.isFinite = true := by
  obtain ⟨y, magnitude, rfl⟩ := Option.map_eq_some_iff.1 read
  have finite : y.isFinite = true := by
    split at magnitude
    · cases magnitude
      decide
    · have below : n.significand.1 < 2 ^ 64 * 1 := by
        rw [Nat.mul_one]
        exact n.significand_lt
      have small : (Double.ofNat n.significand.1).magnitude ≤ (64 + 1023) * 2 ^ 52 := by
        rw [Double.ofNat, Double.magnitude_nearest]
        exact Double.nearestMagnitude_le below
      exact timesPowerOfTen?_isFinite small (by decide) magnitude
  split
  · rw [Double.isFinite_neg, finite]
  · exact finite

end Numeral

end ObjectModel
