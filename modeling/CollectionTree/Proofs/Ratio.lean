import CollectionTree.Proofs.Rounding
import CollectionTree.Simulation.Report

/-
  A part is not more than the whole.

  Key definitions include:
    * `Rounding.countMantissa`
    * `Rounding.countExponent`

  Key theorems include:
    * `Rounding.unpack_ofNat`
    * `Rounding.count_mono`
    * `Rounding.div_atMostOne`
    * `not_one_lt_ratio`

  Counts beyond 53 bits are rounded, but rounding keeps
  their order, and a quotient that is at most one is not
  rounded to more than one.
-/

namespace CollectionTree

namespace Rounding

open Float.Model
open Float.Model.UnpackedFloat

------------------------------------------------------------
-- Quotients
------------------------------------------------------------

theorem log2_lt_of_lt
    {mantissa bits : Nat}
    (hBits : 0 < bits)
    (hLess : mantissa < 2 ^ bits) :
    mantissa.log2 < bits := by
  by_cases hZero : mantissa = 0
  · rw [hZero, Nat.log2_zero]
    exact hBits
  · exact (Nat.log2_lt hZero).mpr hLess

/- A number up to one has no exponent above that of one. -/
theorem target_le
    {mantissa : Nat}
    {exponent : Int}
    (hExponent : exponent ≤ -52)
    (hOne : mantissa ≤ 2 ^ (-exponent).toNat) :
    target mantissa exponent ≤ -52 := by
  have hLess : mantissa < 2 ^ ((-exponent).toNat + 1) := by
    rw [Nat.pow_succ]
    have hPower := Nat.two_pow_pos (-exponent).toNat
    omega
  have hLog := log2_lt_of_lt (Nat.succ_pos _) hLess
  unfold target
  omega

/- Rounding a number up to one gives one at most. -/
theorem round_atMostOne
    {mantissa : Nat}
    {exponent : Int}
    {accuracy : Accuracy}
    (hExponent : exponent ≤ -52)
    (hOne : mantissa ≤ 2 ^ (-exponent).toNat)
    (hExact :
      mantissa = 2 ^ (-exponent).toNat →
        accuracy = .exact) :
    roundWithAccuracy Format.binary64 .positive mantissa
        exponent accuracy =
      .zero .positive ∨
      ∃ (m : Nat) (e : Int) (hPos : 0 < m),
        roundWithAccuracy Format.binary64 .positive mantissa
            exponent accuracy =
          .finite .positive m e hPos ∧
        AtMostOne m e := by
  have hTarget := target_le hExponent hOne
  generalize hFirst :
    (target mantissa exponent - exponent).toNat = first
  generalize hMiddle :
    (ExtendedMantissa.ofMantissaAndAccuracy mantissa
      accuracy >>> first).roundedMantissa = middle
  generalize hSecond :
    (target middle (exponent + first) -
      (exponent + first)).toNat = second
  have hShifted : exponent + first ≤ -52 := by
    omega
  have hPower :
      2 ^ (-exponent).toNat =
        2 ^ (-(exponent + first)).toNat * 2 ^ first := by
    rw [← Nat.pow_add]
    congr 1
    omega
  have hMiddleOne :
      middle ≤ 2 ^ (-(exponent + first)).toNat := by
    rcases Nat.eq_or_lt_of_le hOne with hSame | hLess
    · rw [hExact hSame, hSame, hPower] at hMiddle
      have hShift :=
        exactly_shiftRight
          (2 ^ (-(exponent + first)).toNat) first
      unfold exactly at hShift
      rw [hShift] at hMiddle
      exact Nat.le_of_eq hMiddle.symm
    · have hUpper :=
        roundedMantissa_le
          (ExtendedMantissa.ofMantissaAndAccuracy mantissa
            accuracy >>> first)
      have hMantissa :
          (ExtendedMantissa.ofMantissaAndAccuracy mantissa
            accuracy).mantissa = mantissa := by
        rcases accuracy with _ | order
        · rfl
        · cases order <;> rfl
      have hQuotient :
          mantissa / 2 ^ first <
            2 ^ (-(exponent + first)).toNat := by
        apply Nat.div_lt_of_lt_mul
        rw [Nat.mul_comm, ← hPower]
        exact hLess
      rw [mantissa_shiftRight, hMantissa, hMiddle] at hUpper
      omega
  have hTargetAgain := target_le hShifted hMiddleOne
  rw [roundWithAccuracy_eq hFirst hMiddle hSecond]
  by_cases hZero : middle / 2 ^ second = 0
  · rw [dif_pos hZero]
    exact Or.inl rfl
  · rw [dif_neg hZero]
    refine Or.inr ⟨_, _, Nat.pos_of_ne_zero hZero, rfl, ?_⟩
    by_cases hEqual : exponent + first + second = -52
    · refine Or.inr ⟨hEqual, ?_⟩
      apply Nat.div_le_of_le_mul
      rw [← Nat.pow_add]
      have hBits :
          (-(exponent + first)).toNat = second + 52 := by
        omega
      rw [hBits] at hMiddleOne
      exact hMiddleOne
    · apply Or.inl
      omega

/- The quotient of a number and one that is not smaller. -/
theorem div_atMostOne
    {m₁ m₂ : Nat}
    {e₁ e₂ : Int}
    (hFirst : 0 < m₁)
    (hSecond : 0 < m₂)
    (hExponents : e₁ ≤ e₂)
    (hMantissas : m₁ ≤ m₂ * 2 ^ (e₂ - e₁).toNat) :
    div Format.binary64 (.finite .positive m₁ e₁ hFirst)
        (.finite .positive m₂ e₂ hSecond) =
      .zero .positive ∨
      ∃ (m : Nat) (e : Int) (hPos : 0 < m),
        div Format.binary64
            (.finite .positive m₁ e₁ hFirst)
            (.finite .positive m₂ e₂ hSecond) =
          .finite .positive m e hPos ∧
        AtMostOne m e := by
  have hTotal :
      totalExponent m₁ e₁ ≤ totalExponent m₂ e₂ := by
    have hBits :
        m₁ < 2 ^ (m₂.log2 + 1 + (e₂ - e₁).toNat) := by
      rw [Nat.pow_add]
      apply Nat.lt_of_le_of_lt hMantissas
      exact Nat.mul_lt_mul_of_pos_right Nat.lt_log2_self
        (Nat.two_pow_pos _)
    have hLog := log2_lt_of_lt (by omega) hBits
    unfold totalExponent
    omega
  generalize hExponent :
    min (e₁ - e₂)
      (Format.binary64.targetExponent
        (totalExponent m₁ e₁ - totalExponent m₂ e₂)) =
      exponent
  have hTarget :
      Format.binary64.targetExponent
          (totalExponent m₁ e₁ - totalExponent m₂ e₂) ≤
        -53 := by
    change max (_ - 53) (-1074) ≤ (-53 : Int)
    omega
  generalize hShift :
    (e₁ - e₂ - exponent).toNat = shift
  have hDiv :
      div Format.binary64 (.finite .positive m₁ e₁ hFirst)
          (.finite .positive m₂ e₂ hSecond) =
        roundWithAccuracy Format.binary64 .positive
          (m₁ <<< shift / m₂) exponent
          (accuracyOfFraction (m₁ <<< shift % m₂) m₂) := by
    rw [← hShift, ← hExponent]
    rfl
  have hScaled :
      m₁ * 2 ^ shift ≤ m₂ * 2 ^ (-exponent).toNat := by
    have hBits :
        (-exponent).toNat = (e₂ - e₁).toNat + shift := by
      omega
    rw [hBits, Nat.pow_add, ← Nat.mul_assoc]
    exact Nat.mul_le_mul_right _ hMantissas
  rw [hDiv, Nat.shiftLeft_eq]
  apply round_atMostOne
  · omega
  · exact Nat.div_le_of_le_mul hScaled
  · intro hSame
    have hWhole := Nat.div_add_mod (m₁ * 2 ^ shift) m₂
    rw [hSame] at hWhole
    have hRest : m₁ * 2 ^ shift % m₂ = 0 := by
      omega
    rw [hRest]
    rfl

------------------------------------------------------------
-- Counts
------------------------------------------------------------

/- A count in 53 bits, which may be one bit more. -/
def roundedCount
    (n : Nat) : Nat :=
  rounded (n * 2 ^ (52 - n.log2)) (n.log2 - 52)

theorem roundedCount_bounds
    {n : Nat}
    (hSome : n ≠ 0) :
    2 ^ 52 ≤ roundedCount n ∧ roundedCount n ≤ 2 ^ 53 := by
  let em :=
    exactly (n * 2 ^ (52 - n.log2)) >>> (n.log2 - 52)
  have hLow : 2 ^ n.log2 ≤ n :=
    Nat.log2_self_le hSome
  have hHigh : n < 2 ^ (n.log2 + 1) :=
    Nat.lt_log2_self
  have hBits :
      n.log2 + (52 - n.log2) = 52 + (n.log2 - 52) := by
    omega
  have hMantissa :
      em.mantissa =
        n * 2 ^ (52 - n.log2) / 2 ^ (n.log2 - 52) :=
    mantissa_shiftRight _ _
  have hLeast : 2 ^ 52 ≤ em.mantissa := by
    rw [hMantissa, Nat.le_div_iff_mul_le (Nat.two_pow_pos _),
      ← Nat.pow_add, ← hBits, Nat.pow_add]
    exact Nat.mul_le_mul_right _ hLow
  have hMost : em.mantissa < 2 ^ 53 := by
    rw [hMantissa]
    apply Nat.div_lt_of_lt_mul
    rw [← Nat.pow_add]
    have hBitsMore :
        n.log2 - 52 + 53 =
          (n.log2 + 1) + (52 - n.log2) := by
      omega
    rw [hBitsMore, Nat.pow_add]
    exact Nat.mul_lt_mul_of_pos_right hHigh
      (Nat.two_pow_pos _)
  constructor
  · exact Nat.le_trans hLeast (le_roundedMantissa em)
  · exact Nat.le_trans (roundedMantissa_le em) hMost

/- The mantissa of a count as a number. -/
def countMantissa
    (n : Nat) : Nat :=
  if roundedCount n = 2 ^ 53 then 2 ^ 52 else roundedCount n

/- The exponent of a count as a number. -/
def countExponent
    (n : Nat) : Int :=
  n.log2 - 52 + if roundedCount n = 2 ^ 53 then 1 else 0

theorem countMantissa_bounds
    {n : Nat}
    (hSome : n ≠ 0) :
    2 ^ 52 ≤ countMantissa n ∧ countMantissa n < 2 ^ 53 := by
  have hBounds := roundedCount_bounds hSome
  unfold countMantissa
  split <;> omega

theorem le_countExponent
    (n : Nat) :
    -52 ≤ countExponent n := by
  unfold countExponent
  split <;> omega

theorem log2_mono
    {a b : Nat}
    (hLe : a ≤ b) :
    a.log2 ≤ b.log2 := by
  have hLess : a < 2 ^ (b.log2 + 1) :=
    Nat.lt_of_le_of_lt hLe Nat.lt_log2_self
  exact Nat.le_of_lt_succ
    (log2_lt_of_lt (Nat.succ_pos _) hLess)

/- With equal exponents, greater counts have more. -/
theorem countMantissa_le
    {a b : Nat}
    (hSome : a ≠ 0)
    (hLe : a ≤ b) :
    countExponent a ≤ countExponent b ∧
      (countExponent a = countExponent b →
        countMantissa a ≤ countMantissa b) := by
  have hLogs := log2_mono hLe
  have hFirst := roundedCount_bounds hSome
  have hSecond :=
    roundedCount_bounds (Nat.ne_zero_of_lt
      (Nat.lt_of_lt_of_le (Nat.pos_of_ne_zero hSome) hLe))
  have hRounded :
      a.log2 = b.log2 → roundedCount a ≤ roundedCount b := by
    intro hSame
    unfold roundedCount
    rw [hSame]
    exact rounded_mono (Nat.mul_le_mul_right _ hLe) _
  unfold countExponent countMantissa
  by_cases hCarry : roundedCount a = 2 ^ 53
  · by_cases hOther : roundedCount b = 2 ^ 53
    · rw [if_pos hCarry, if_pos hCarry, if_pos hOther,
        if_pos hOther]
      omega
    · rw [if_pos hCarry, if_pos hCarry, if_neg hOther,
        if_neg hOther]
      omega
  · by_cases hOther : roundedCount b = 2 ^ 53
    · rw [if_neg hCarry, if_neg hCarry, if_pos hOther,
        if_pos hOther]
      omega
    · rw [if_neg hCarry, if_neg hCarry, if_neg hOther,
        if_neg hOther]
      omega

/- Greater counts are not smaller as numbers. -/
theorem count_mono
    {a b : Nat}
    (hSome : a ≠ 0)
    (hLe : a ≤ b) :
    countExponent a ≤ countExponent b ∧
      countMantissa a ≤
        countMantissa b *
          2 ^ (countExponent b - countExponent a).toNat := by
  have hFirst := countMantissa_bounds hSome
  have hSecond :=
    countMantissa_bounds (Nat.ne_zero_of_lt
      (Nat.lt_of_lt_of_le (Nat.pos_of_ne_zero hSome) hLe))
  rcases countMantissa_le hSome hLe with
    ⟨hExponents, hMantissas⟩
  refine ⟨hExponents, ?_⟩
  rcases Int.lt_or_eq_of_le hExponents with hLess | hSame
  · have hPower :
        2 ^ 1 ≤
          2 ^ (countExponent b - countExponent a).toNat :=
      Nat.pow_le_pow_right (Nat.succ_pos 1) (by omega)
    have hScaled :
        2 ^ 52 * 2 ^ 1 ≤
          countMantissa b *
            2 ^ (countExponent b - countExponent a).toNat :=
      Nat.mul_le_mul hSecond.1 hPower
    omega
  · rw [hSame, Int.sub_self, Int.toNat_zero, Nat.pow_zero,
      Nat.mul_one]
    exact hMantissas hSame

theorem log2_scaled
    {n : Nat}
    (hSome : n ≠ 0)
    (bits : Nat) :
    (n * 2 ^ bits).log2 = n.log2 + bits := by
  have hPower := Nat.two_pow_pos bits
  have hLow := Nat.mul_le_mul_right (2 ^ bits)
    (Nat.log2_self_le hSome)
  have hHigh := Nat.mul_lt_mul_of_pos_right
    (Nat.lt_log2_self (n := n)) hPower
  rw [← Nat.pow_add] at hLow hHigh
  rw [Nat.log2_eq_iff
    (Nat.mul_ne_zero hSome (Nat.ne_zero_of_lt hPower))]
  refine ⟨hLow, ?_⟩
  rw [Nat.add_right_comm]
  exact hHigh

/- A count is rounded to 53 bits, however it is scaled. -/
theorem round_count
    {n bits : Nat}
    (hSome : n ≠ 0)
    (hBits : 52 - n.log2 ≤ bits)
    (hPos : 0 < countMantissa n) :
    roundWithAccuracy Format.binary64 .positive (n * 2 ^ bits)
        (-bits) .exact =
      .finite .positive (countMantissa n) (countExponent n)
        hPos := by
  have hBounds := roundedCount_bounds hSome
  have hFirst :
      (target (n * 2 ^ bits) (-bits) - -bits).toNat =
        n.log2 + bits - 52 := by
    unfold target
    rw [log2_scaled hSome]
    omega
  have hMiddle :
      (exactly (n * 2 ^ bits) >>>
          (n.log2 + bits - 52)).roundedMantissa =
        roundedCount n := by
    have hScaled :
        n * 2 ^ bits =
          n * 2 ^ (52 - n.log2) *
            2 ^ (bits - (52 - n.log2)) := by
      rw [Nat.mul_assoc, ← Nat.pow_add,
        Nat.add_sub_cancel' hBits]
    have hShift :
        n.log2 + bits - 52 =
          (bits - (52 - n.log2)) + (n.log2 - 52) := by
      omega
    rw [hScaled, hShift]
    exact rounded_shiftLeft _ _ _
  have hExponent :
      -(bits : Int) + (n.log2 + bits - 52 : Nat) =
        n.log2 - 52 := by
    omega
  by_cases hCarry : roundedCount n = 2 ^ 53
  · have hSecond :
        (target (roundedCount n)
            (-(bits : Int) + (n.log2 + bits - 52 : Nat)) -
          (-(bits : Int) +
            (n.log2 + bits - 52 : Nat))).toNat = 1 := by
      unfold target
      rw [hExponent, hCarry, Nat.log2_two_pow]
      omega
    rw [roundWithAccuracy_eq hFirst hMiddle hSecond]
    have hHalf : roundedCount n / 2 ^ 1 = 2 ^ 52 := by
      have hPower : 2 ^ 53 / 2 ^ 1 = 2 ^ 52 := by
        decide
      rw [hCarry, hPower]
    simp only [hHalf, hExponent]
    rw [dif_neg (by decide)]
    simp only [countMantissa, countExponent, hCarry, if_true]
    rfl
  · have hSecond :
        (target (roundedCount n)
            (-(bits : Int) + (n.log2 + bits - 52 : Nat)) -
          (-(bits : Int) +
            (n.log2 + bits - 52 : Nat))).toNat = 0 := by
      unfold target
      rw [hExponent,
        log2_of_full hBounds.1 (by omega)]
      omega
    rw [roundWithAccuracy_eq hFirst hMiddle hSecond]
    have hWhole :
        roundedCount n / 2 ^ 0 = roundedCount n := by
      rw [Nat.pow_zero, Nat.div_one]
    simp only [hWhole, hExponent]
    rw [dif_neg (by omega)]
    simp only [countMantissa, countExponent, hCarry, if_false]
    rfl

------------------------------------------------------------
-- Counts as Numbers
------------------------------------------------------------

theorem countMantissa_pos
    {n : Nat}
    (hSome : n ≠ 0) :
    0 < countMantissa n := by
  have hBounds := countMantissa_bounds hSome
  omega

theorem unpack_pack_count
    {n : Nat}
    (hSome : n ≠ 0) :
    (Float.Model.pack
        (.finite .positive (countMantissa n)
          (countExponent n)
          (countMantissa_pos hSome))).unpack =
      if 972 ≤ countExponent n then
        .infinity .positive
      else
        .finite .positive (countMantissa n) (countExponent n)
          (countMantissa_pos hSome) := by
  have hBounds := countMantissa_bounds hSome
  exact unpack_pack_normal _ hBounds.1 hBounds.2
    (le_countExponent n)

/- Up to 53 bits, nothing is lost. -/
theorem count_of_small
    {n : Nat}
    (hSmall : n.log2 ≤ 52) :
    countMantissa n = n * 2 ^ (52 - n.log2) ∧
      countExponent n = n.log2 - 52 := by
  have hRounded :
      roundedCount n = n * 2 ^ (52 - n.log2) := by
    unfold roundedCount
    rw [Nat.sub_eq_zero_of_le hSmall]
    exact rounded_zero _
  have hLess : n * 2 ^ (52 - n.log2) < 2 ^ 53 := by
    have hScaled :=
      Nat.mul_lt_mul_of_pos_right
        (Nat.lt_log2_self (n := n))
        (Nat.two_pow_pos (52 - n.log2))
    have hBits : n.log2 + 1 + (52 - n.log2) = 53 := by
      omega
    rw [← Nat.pow_add, hBits] at hScaled
    exact hScaled
  have hNoCarry : roundedCount n ≠ 2 ^ 53 := by
    omega
  unfold countMantissa countExponent
  rw [if_neg hNoCarry, if_neg hNoCarry, hRounded,
    Int.add_zero]
  exact ⟨rfl, rfl⟩

theorem log2_le_of_small
    {n : Nat}
    (hSmall : n < 2 ^ 53) :
    n.log2 ≤ 52 :=
  Nat.le_of_lt_succ (log2_lt_of_lt (by decide) hSmall)

theorem unpack_toFloat
    {n : Nat}
    (hSome : n ≠ 0)
    (hSmall : n < 2 ^ 53) :
    n.toUInt64.toFloat.toModel.unpack =
      .finite .positive (countMantissa n) (countExponent n)
        (countMantissa_pos hSome) := by
  have hLog := log2_le_of_small hSmall
  have hWord : n.toUInt64.toNat = n := by
    rw [Nat.toUInt64_eq, UInt64.toNat_ofNat']
    exact Nat.mod_eq_of_lt (by omega)
  have hOrder : compare (n : Int) 0 = .gt :=
    Int.compare_eq_gt.mpr (by omega)
  have hShift :
      ((0 : Int) - target n 0).toNat = 52 - n.log2 := by
    unfold target
    omega
  have hRound :
      UnpackedFloat.ofNat Format.binary64 n =
        .finite .positive (countMantissa n)
          (countExponent n) (countMantissa_pos hSome) := by
    unfold UnpackedFloat.ofNat UnpackedFloat.ofInt
      UnpackedFloat.normalize
    rw [hOrder]
    change
      roundWithAccuracy Format.binary64 .positive
          (n <<< ((0 : Int) - target n 0).toNat)
          (0 - (((0 : Int) - target n 0).toNat : Int))
          .exact =
        _
    rw [hShift, Nat.shiftLeft_eq, Int.zero_sub]
    exact round_count hSome (Nat.le_refl _) _
  change
    (Float.Model.pack
      (UnpackedFloat.ofNat Format.binary64
        n.toUInt64.toNat)).unpack = _
  rw [hWord, hRound, unpack_pack_count hSome, if_neg]
  rw [(count_of_small hLog).2]
  omega

/- A count is either infinite or what it is rounded to. -/
theorem unpack_ofNat
    {n : Nat}
    (hSome : n ≠ 0) :
    (Float.ofNat n).toModel.unpack =
      if 972 ≤ countExponent n then
        .infinity .positive
      else
        .finite .positive (countMantissa n) (countExponent n)
          (countMantissa_pos hSome) := by
  have hPower :
      (Float.ofBits 0x3FF0000000000000).toModel.unpack =
        .finite .positive (2 ^ 52) (-52) (by decide) :=
    rfl
  rw [← unpack_pack_count hSome]
  by_cases hSmall : n < 2 ^ 53
  · have hLog := log2_le_of_small hSmall
    rcases count_of_small hLog with ⟨hMantissa, hExponent⟩
    have hFloat :
        Float.ofNat n =
          n.toUInt64.toFloat *
            Float.ofBits 0x3FF0000000000000 :=
      dif_pos ⟨hSmall, Nat.zero_le 22⟩
    rw [hFloat]
    change
      (Float.Model.pack
        (UnpackedFloat.mul Format.binary64
          n.toUInt64.toFloat.toModel.unpack
          (Float.ofBits
            0x3FF0000000000000).toModel.unpack)).unpack = _
    rw [unpack_toFloat hSome hSmall, hPower]
    have hProduct :
        countMantissa n * 2 ^ 52 =
          n * 2 ^ (104 - n.log2) := by
      rw [hMantissa, Nat.mul_assoc, ← Nat.pow_add]
      congr 2
      omega
    have hSum :
        countExponent n + -52 =
          -((104 - n.log2 : Nat) : Int) := by
      omega
    congr 2
    change
      roundWithAccuracy Format.binary64 .positive
          (countMantissa n * 2 ^ 52)
          (countExponent n + -52) .exact =
        _
    rw [hProduct, hSum]
    exact round_count hSome (by omega) _
  · have hFloat :
        Float.ofNat n =
          Float.ofModel (Float.Model.ofScientific n 0) :=
      dif_neg (fun hBoth => hSmall hBoth.1)
    rw [hFloat]
    change
      (Float.Model.pack
        (UnpackedFloat.ofScientific Format.binary64 n
          0)).unpack = _
    congr 2
    have hPositive :
        (0 : Int) ≤ 2 ^ Format.binary64.exponentBits := by
      decide
    unfold UnpackedFloat.ofScientific
    rw [dif_neg hSome, if_neg (by decide), if_neg (by omega),
      if_pos (by decide)]
    change
      roundWithAccuracy Format.binary64 .positive
          (n <<< 53 * 1) (-((53 : Nat) : Int)) .exact =
        _
    rw [Nat.mul_one, Nat.shiftLeft_eq]
    exact round_count hSome (by omega) _

theorem unpack_ofNat_zero :
    (Float.ofNat 0).toModel.unpack = .zero .positive :=
  rfl

end Rounding

------------------------------------------------------------
-- Ratios
------------------------------------------------------------

open Float.Model.UnpackedFloat in
theorem not_one_lt_div
    {x y : Float}
    (hQuotient :
      (1.0 : Float).toModel.unpack.lt
          (Float.Model.pack
            (div Float.Model.Format.binary64 x.toModel.unpack
              y.toModel.unpack)).unpack =
        false) :
    ¬ 1.0 < x / y := by
  intro hLess
  have hOrder :
      (1.0 : Float).toModel.unpack.lt
          (Float.Model.pack
            (div Float.Model.Format.binary64 x.toModel.unpack
              y.toModel.unpack)).unpack =
        true :=
    of_decide_eq_true hLess
  rw [hQuotient] at hOrder
  contradiction

/- A share of a whole is never more than all of it. -/
theorem not_one_lt_ratio
    {part whole : Nat}
    (hPart : part ≤ whole) :
    ¬ 1.0 < ratio part whole := by
  unfold ratio
  by_cases hNothing : whole = 0
  · rw [if_pos hNothing]
    decide
  · rw [if_neg hNothing]
    apply not_one_lt_div
    rw [Rounding.unpack_ofNat hNothing]
    by_cases hNone : part = 0
    · rw [hNone, Rounding.unpack_ofNat_zero]
      split <;> exact Rounding.not_one_lt_pack_zero
    · rw [Rounding.unpack_ofNat hNone]
      rcases Rounding.count_mono hNone hPart with
        ⟨hExponents, hMantissas⟩
      by_cases hGreat : 972 ≤ Rounding.countExponent whole
      · rw [if_pos hGreat]
        split
        · exact Rounding.not_one_lt_pack_notANumber
        · exact Rounding.not_one_lt_pack_zero
      · rw [if_neg hGreat, if_neg (by omega)]
        rcases Rounding.div_atMostOne
          (Rounding.countMantissa_pos hNone)
          (Rounding.countMantissa_pos hNothing) hExponents
          hMantissas with
          hZero | ⟨m, e, hPos, hFinite, hSmall⟩
        · rw [hZero]
          exact Rounding.not_one_lt_pack_zero
        · rw [hFinite]
          exact Rounding.not_one_lt_pack hPos hSmall

end CollectionTree
