import Mathlib

/-
  How numbers of 64 bits are rounded.

  Key definitions include:
    * `Rounding.rounded`

  Key theorems include:
    * `Rounding.rounded_mono`
    * `Rounding.roundWithAccuracy_eq`
    * `Rounding.unpack_pack_normal`

  A mantissa with too many bits is shifted to the right; a
  round bit and a sticky bit remember what was shifted out,
  and decide whether the result is rounded up.
-/

namespace CollectionTree

namespace Rounding

open Float.Model
open Float.Model.UnpackedFloat

------------------------------------------------------------
-- Shifting
------------------------------------------------------------

theorem shiftRight_succ
    (em : ExtendedMantissa)
    (count : Nat) :
    em >>> (count + 1) = (em >>> count).shiftRightOne :=
  rfl

theorem shiftRight_add
    (em : ExtendedMantissa)
    (first second : Nat) :
    em >>> (first + second) = (em >>> first) >>> second := by
  induction second with
  | zero => rfl
  | succ second ih =>
      rw [← Nat.add_assoc, shiftRight_succ, ih,
        ← shiftRight_succ]

theorem mantissa_shiftRight
    (em : ExtendedMantissa)
    (count : Nat) :
    (em >>> count).mantissa = em.mantissa / 2 ^ count := by
  induction count with
  | zero =>
      rw [Nat.pow_zero, Nat.div_one]
      rfl
  | succ count ih =>
      rw [shiftRight_succ]
      unfold ExtendedMantissa.shiftRightOne
      rw [ih, Nat.div_div_eq_div_mul, Nat.pow_succ]

/- A number without a rest. -/
def exactly
    (mantissa : Nat) : ExtendedMantissa :=
  ExtendedMantissa.ofMantissaAndAccuracy mantissa .exact

/- The bits that were shifted out are remembered. -/
theorem exactly_shiftRight_succ
    (mantissa count : Nat) :
    exactly mantissa >>> (count + 1) =
      ⟨mantissa / 2 ^ count / 2,
        mantissa / 2 ^ count % 2 != 0,
        mantissa % 2 ^ count != 0⟩ := by
  induction count with
  | zero =>
      rw [Nat.pow_zero, Nat.div_one, Nat.mod_one]
      rfl
  | succ count ih =>
      have hRest :
          mantissa % 2 ^ (count + 1) =
            mantissa % 2 ^ count +
              2 ^ count * (mantissa / 2 ^ count % 2) :=
        Nat.mod_pow_succ
      have hPower : 0 < 2 ^ count := Nat.two_pow_pos count
      rw [shiftRight_succ, ih]
      unfold ExtendedMantissa.shiftRightOne
      rw [Nat.pow_succ, ← Nat.div_div_eq_div_mul,
        ← Nat.pow_succ, hRest]
      congr 1
      rcases Nat.mod_two_eq_zero_or_one
        (mantissa / 2 ^ count) with hEven | hOdd
      · simp [hEven]
      · rw [hOdd]
        simp

theorem exactly_shiftRight
    (mantissa count : Nat) :
    exactly (mantissa * 2 ^ count) >>> count =
      exactly mantissa := by
  induction count generalizing mantissa with
  | zero =>
      rw [Nat.pow_zero, Nat.mul_one]
      rfl
  | succ count ih =>
      have hTwice :
          mantissa * 2 ^ (count + 1) =
            (mantissa * 2) * 2 ^ count := by
        rw [Nat.pow_succ, Nat.mul_assoc, Nat.mul_comm 2]
      rw [shiftRight_succ, hTwice, ih]
      unfold exactly ExtendedMantissa.ofMantissaAndAccuracy
        ExtendedMantissa.shiftRightOne
      simp

------------------------------------------------------------
-- Rounding
------------------------------------------------------------

theorem le_roundedMantissa
    (em : ExtendedMantissa) :
    em.mantissa ≤ em.roundedMantissa := by
  rcases em with ⟨mantissa, roundBit, stickyBit⟩
  cases roundBit <;> cases stickyBit
  · exact Nat.le_refl mantissa
  · exact Nat.le_refl mantissa
  · exact Nat.le_add_right mantissa (mantissa % 2)
  · exact Nat.le_add_right mantissa 1

theorem roundedMantissa_le
    (em : ExtendedMantissa) :
    em.roundedMantissa ≤ em.mantissa + 1 := by
  rcases em with ⟨mantissa, roundBit, stickyBit⟩
  have hRest : mantissa % 2 ≤ 1 := by
    omega
  cases roundBit <;> cases stickyBit
  · exact Nat.le_add_right mantissa 1
  · exact Nat.le_add_right mantissa 1
  · exact Nat.add_le_add_left hRest mantissa
  · exact Nat.le_refl (mantissa + 1)

/- A number without its last bits, rounded. -/
def rounded
    (mantissa count : Nat) : Nat :=
  (exactly mantissa >>> count).roundedMantissa

/- Without bits to shift out, there is nothing to round. -/
theorem rounded_shiftLeft
    (mantissa count extra : Nat) :
    rounded (mantissa * 2 ^ extra) (extra + count) =
      rounded mantissa count := by
  unfold rounded
  rw [shiftRight_add, exactly_shiftRight]

theorem rounded_zero
    (mantissa : Nat) :
    rounded mantissa 0 = mantissa :=
  rfl

theorem roundedMantissa_of_even
    (mantissa : Nat)
    (stickyBit : Bool) :
    (ExtendedMantissa.mk mantissa false
      stickyBit).roundedMantissa = mantissa := by
  cases stickyBit <;> rfl

/- More bits do not make a number smaller. -/
theorem roundedMantissa_le_of_sticky
    (mantissa : Nat)
    (roundBit : Bool)
    {first second : Bool}
    (hBits : first = true → second = true) :
    (ExtendedMantissa.mk mantissa roundBit
        first).roundedMantissa ≤
      (ExtendedMantissa.mk mantissa roundBit
        second).roundedMantissa := by
  cases first with
  | true =>
      apply Nat.le_of_eq
      rw [hBits rfl]
  | false =>
      cases second with
      | false => exact Nat.le_refl _
      | true =>
          cases roundBit with
          | false => exact Nat.le_refl mantissa
          | true =>
              apply Nat.add_le_add_left
              omega

/- Greater numbers are not rounded to smaller ones. -/
theorem rounded_mono
    {a b : Nat}
    (hLe : a ≤ b)
    (count : Nat) :
    rounded a count ≤ rounded b count := by
  cases count with
  | zero => exact hLe
  | succ count =>
      have hHigh : a / 2 ^ count ≤ b / 2 ^ count :=
        Nat.div_le_div_right hLe
      unfold rounded
      rw [exactly_shiftRight_succ, exactly_shiftRight_succ]
      rcases Nat.eq_or_lt_of_le hHigh with hSame | hLess
      · -- Only the sticky bits differ.
        have hLow : a % 2 ^ count ≤ b % 2 ^ count := by
          have hFirst := Nat.div_add_mod a (2 ^ count)
          have hSecond := Nat.div_add_mod b (2 ^ count)
          rw [hSame] at hFirst
          omega
        rw [hSame]
        apply roundedMantissa_le_of_sticky
        intro hSticky
        rw [bne_iff_ne] at hSticky ⊢
        omega
      · -- An odd number is not rounded beyond the next one.
        have hLower :=
          le_roundedMantissa
            ⟨b / 2 ^ count / 2, b / 2 ^ count % 2 != 0,
              b % 2 ^ count != 0⟩
        refine Nat.le_trans ?_ hLower
        rcases Nat.mod_two_eq_zero_or_one (a / 2 ^ count)
          with hEven | hOdd
        · have hBit : (a / 2 ^ count % 2 != 0) = false := by
            rw [hEven]
            rfl
          rw [hBit, roundedMantissa_of_even]
          simp only
          omega
        · have hUpper :=
            roundedMantissa_le
              ⟨a / 2 ^ count / 2, a / 2 ^ count % 2 != 0,
                a % 2 ^ count != 0⟩
          simp only at hUpper ⊢
          omega

------------------------------------------------------------
-- Numbers of 53 Bits
------------------------------------------------------------

/- The exponent that a number is shifted to. -/
def target
    (mantissa : Nat)
    (exponent : Int) : Int :=
  max (mantissa.log2 + 1 + exponent - 53) (-1074)

theorem targetExponent_eq
    (mantissa : Nat)
    (exponent : Int) :
    Format.binary64.targetExponent
        (totalExponent mantissa exponent) =
      target mantissa exponent :=
  rfl

/- Rounding shifts once, and once more after a carry. -/
theorem roundWithAccuracy_eq
    {sign : Sign}
    {mantissa : Nat}
    {exponent : Int}
    {accuracy : Accuracy}
    {first second : Nat}
    {middle : Nat}
    (hFirst :
      (target mantissa exponent - exponent).toNat = first)
    (hMiddle :
      (ExtendedMantissa.ofMantissaAndAccuracy mantissa
        accuracy >>> first).roundedMantissa = middle)
    (hSecond :
      (target middle (exponent + first) -
        (exponent + first)).toNat = second) :
    roundWithAccuracy Format.binary64 sign mantissa exponent
        accuracy =
      if hZero : middle / 2 ^ second = 0 then
        .zero sign
      else
        .finite sign (middle / 2 ^ second)
          (exponent + first + second)
          (Nat.pos_of_ne_zero hZero) := by
  subst hFirst
  subst hMiddle
  subst hSecond
  unfold roundWithAccuracy
  simp only [shiftToTargetExponent, shiftToExponent,
    targetExponent_eq, mantissa_shiftRight]
  rfl

------------------------------------------------------------
-- Packing
------------------------------------------------------------

/- The number that the parts of a positive one stand for. -/
def ofParts
    (exponent : BitVec 11)
    (mantissa : BitVec 52) : UnpackedFloat :=
  if exponent = -1#11 then
    if mantissa = 0#52 then .infinity .positive else .notANumber
  else if exponent = 0#11 then
    if hZero : mantissa = 0#52 then
      .zero .positive
    else
      .finite .positive mantissa.toNat (-1074)
        (by simpa [BitVec.toNat_pos,
          BitVec.pos_iff_ne_zero] using hZero)
  else
    .finite .positive (2 ^ 52 + mantissa.toNat)
      (exponent.toNat - 1075) (by omega)

theorem toNat_append_one
    (mantissa : BitVec 52) :
    (1#1 ++ mantissa).toNat = 2 ^ 52 + mantissa.toNat := by
  rw [BitVec.toNat_append,
    ← Nat.shiftLeft_add_eq_or_of_lt mantissa.isLt]
  rfl

theorem unpack_packComponents
    (exponent : BitVec 11)
    (mantissa : BitVec 52) :
    UnpackedFloat.unpack Format.binary64
        (packComponents Format.binary64 .positive exponent
          mantissa) =
      ofParts exponent mantissa := by
  unfold UnpackedFloat.unpack ofParts
  simp only [unpackMantissa_packComponents,
    unpackExponent_packComponents,
    unpackSign_packComponents, toNat_append_one]
  split
  · rfl
  · split
    next hExponent =>
      split
      · rfl
      · subst hExponent
        rfl
    next => rfl

/- Great numbers become infinite and small ones lose bits. -/
theorem unpack_pack_finite
    {mantissa : Nat}
    {exponent : Int}
    (hPos : 0 < mantissa) :
    (Float.Model.pack
        (.finite .positive mantissa exponent hPos)).unpack =
      if 972 ≤ exponent then
        .infinity .positive
      else if mantissa.log2 = 52 then
        ofParts (BitVec.ofNat 11 (exponent + 1075).toNat)
          (BitVec.ofNat 52 mantissa)
      else
        ofParts 0#11 (BitVec.ofNat 52 mantissa) := by
  have hBiased :
      (exponent + (1023 : Nat) + (52 : Nat)).toNat =
        (exponent + 1075).toNat := by
    congr 1
    omega
  change
    UnpackedFloat.unpack Format.binary64
        (if 2 ^ 11 ≤
            (exponent + (1023 : Nat) + (52 : Nat)).toNat +
              1 then
          packComponents Format.binary64 .positive (-1#11) 0
        else if mantissa.log2 + 1 = 1 + 52 then
          packComponents Format.binary64 .positive
            (BitVec.ofNat 11
              (exponent + (1023 : Nat) + (52 : Nat)).toNat)
            (BitVec.ofNat 52 mantissa)
        else
          packComponents Format.binary64 .positive 0#11
            (BitVec.ofNat 52 mantissa)) =
      _
  rw [hBiased]
  by_cases hGreat : 972 ≤ exponent
  · rw [if_pos (by omega), if_pos hGreat,
      unpack_packComponents]
    rfl
  · rw [if_neg (by omega), if_neg hGreat]
    by_cases hFull : mantissa.log2 = 52
    · rw [if_pos (by omega), if_pos hFull,
        unpack_packComponents]
    · rw [if_neg (by omega), if_neg hFull,
        unpack_packComponents]

theorem ofParts_of_normal
    {biased : Nat}
    (hSome : 0 < biased)
    (hBound : biased < 2047)
    (mantissa : BitVec 52) :
    ofParts (BitVec.ofNat 11 biased) mantissa =
      .finite .positive (2 ^ 52 + mantissa.toNat)
        (biased - 1075) (by omega) := by
  have hValue : (BitVec.ofNat 11 biased).toNat = biased := by
    rw [BitVec.toNat_ofNat]
    exact Nat.mod_eq_of_lt (by omega)
  have hNotAll : BitVec.ofNat 11 biased ≠ -1#11 := by
    intro hSame
    rw [hSame] at hValue
    exact absurd hValue (by simp; omega)
  have hNotZero : BitVec.ofNat 11 biased ≠ 0#11 := by
    intro hSame
    rw [hSame] at hValue
    exact absurd hValue (by simp; omega)
  unfold ofParts
  simp only [hNotAll, hNotZero, if_false, hValue]

theorem log2_of_full
    {mantissa : Nat}
    (hLow : 2 ^ 52 ≤ mantissa)
    (hHigh : mantissa < 2 ^ 53) :
    mantissa.log2 = 52 := by
  rw [Nat.log2_eq_iff (by omega)]
  exact ⟨hLow, hHigh⟩

/- A number with all of its bits is kept as it is. -/
theorem unpack_pack_normal
    {mantissa : Nat}
    {exponent : Int}
    (hPos : 0 < mantissa)
    (hLow : 2 ^ 52 ≤ mantissa)
    (hHigh : mantissa < 2 ^ 53)
    (hExponent : -52 ≤ exponent) :
    (Float.Model.pack
        (.finite .positive mantissa exponent hPos)).unpack =
      if 972 ≤ exponent then
        .infinity .positive
      else
        .finite .positive mantissa exponent hPos := by
  rw [unpack_pack_finite]
  by_cases hGreat : 972 ≤ exponent
  · rw [if_pos hGreat, if_pos hGreat]
  · have hMantissa :
        2 ^ 52 + (BitVec.ofNat 52 mantissa).toNat =
          mantissa := by
      rw [BitVec.toNat_ofNat]
      omega
    have hBiased :
        ((exponent + 1075).toNat : Int) - 1075 = exponent := by
      omega
    rw [if_neg hGreat, if_neg hGreat,
      if_pos (log2_of_full hLow hHigh),
      ofParts_of_normal (by omega) (by omega)]
    simp only [hMantissa, hBiased]

------------------------------------------------------------
-- At Most One
------------------------------------------------------------

/- The number is no greater than one. -/
def AtMostOne
    (mantissa : Nat)
    (exponent : Int) : Prop :=
  exponent < -52 ∨ exponent = -52 ∧ mantissa ≤ 2 ^ 52

theorem unpack_one :
    (1.0 : Float).toModel.unpack =
      .finite .positive (2 ^ 52) (-52) (by decide) :=
  rfl

theorem not_one_lt_pack_zero :
    (1.0 : Float).toModel.unpack.lt
        (Float.Model.pack (.zero .positive)).unpack =
      false :=
  rfl

theorem not_one_lt_pack_notANumber :
    (1.0 : Float).toModel.unpack.lt
        (Float.Model.pack .notANumber).unpack =
      false :=
  rfl

theorem not_one_lt_of_finite
    {mantissa : Nat}
    {exponent : Int}
    (hPos : 0 < mantissa)
    (hSmall : AtMostOne mantissa exponent) :
    (1.0 : Float).toModel.unpack.lt
        (.finite .positive mantissa exponent hPos) =
      false := by
  rw [unpack_one]
  change
    (some
        ((compare (-52) exponent).then
          (compare (2 ^ 52) mantissa)) ==
      some Ordering.lt) = false
  rcases hSmall with hLess | ⟨hSame, hBound⟩
  · have hExponent : compare (-52) exponent = .gt :=
      Int.compare_eq_gt.mpr hLess
    rw [hExponent]
    rfl
  · have hExponent : compare (-52) exponent = .eq :=
      Int.compare_eq_eq.mpr hSame.symm
    have hMantissa : compare (2 ^ 52) mantissa ≠ .lt := by
      rw [ne_eq, Nat.compare_eq_lt]
      exact Nat.not_lt.mpr hBound
    rw [hExponent]
    cases hOrder : compare (2 ^ 52) mantissa with
    | lt => contradiction
    | eq => rfl
    | gt => rfl

/- Numbers without a first bit are small. -/
theorem not_one_lt_ofParts_zero
    (mantissa : BitVec 52) :
    (1.0 : Float).toModel.unpack.lt
        (ofParts 0#11 mantissa) =
      false := by
  unfold ofParts
  rw [if_neg (by decide), if_pos rfl]
  split
  · rw [unpack_one]
    rfl
  · apply not_one_lt_of_finite
    exact Or.inl (by decide)

/- Packing makes no number greater than one. -/
theorem not_one_lt_pack
    {mantissa : Nat}
    {exponent : Int}
    (hPos : 0 < mantissa)
    (hSmall : AtMostOne mantissa exponent) :
    (1.0 : Float).toModel.unpack.lt
        (Float.Model.pack
          (.finite .positive mantissa exponent
            hPos)).unpack =
      false := by
  have hExponent : exponent ≤ -52 := by
    unfold AtMostOne at hSmall
    omega
  rw [unpack_pack_finite, if_neg (by omega)]
  by_cases hFull : mantissa.log2 = 52
  · rw [if_pos hFull]
    by_cases hTiny : exponent ≤ -1075
    · have hZero : (exponent + 1075).toNat = 0 := by
        omega
      rw [hZero]
      exact not_one_lt_ofParts_zero _
    · rw [ofParts_of_normal (by omega) (by omega)]
      apply not_one_lt_of_finite
      have hBits := (Nat.log2_eq_iff (by omega)).mp hFull
      rw [BitVec.toNat_ofNat]
      unfold AtMostOne at hSmall ⊢
      omega
  · rw [if_neg hFull]
    exact not_one_lt_ofParts_zero _

end Rounding

end CollectionTree
