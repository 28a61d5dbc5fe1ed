import CollectionTree.Proofs.Rounding
import CollectionTree.Simulation.Setup

/-
  Which numbers pass for probabilities.

  Key definitions include:
    * `Probability.value?`

  Key theorems include:
    * `Probability.mantissa_bounds`
    * `Probability.isLE_one_iff`
    * `Probability.isProbability_iff`

  A mantissa has 53 bits unless the exponent is the least
  one.  This is why exponents decide on which side of one a
  number is.
-/

namespace CollectionTree

namespace Probability

open Float.Model
open Float.Model.UnpackedFloat

------------------------------------------------------------
-- Numbers
------------------------------------------------------------

/- The number that a sign stands for. -/
def factor : Sign → ℚ
  | .positive => 1
  | .negative => -1

/- The number that a float stands for, if it is finite. -/
def value?
    (p : Float) : Option ℚ :=
  match p.toModel.unpack with
  | .notANumber => none
  | .infinity _ => none
  | .zero _ => some 0
  | .finite sign mantissa exponent _ =>
      some (factor sign * (mantissa * (2 : ℚ) ^ exponent))

theorem mantissa_bounds
    {f : Float.Model}
    {sign : Sign}
    {mantissa : Nat}
    {exponent : Int}
    {hPos : 0 < mantissa}
    (hFinite :
      f.unpack = .finite sign mantissa exponent hPos) :
    mantissa < 2 ^ 53 ∧
      (2 ^ 52 ≤ mantissa ∨ exponent = -1074) := by
  have hBits :
      ∀ bits : BitVec 52, bits.toNat < 2 ^ 52 :=
    fun bits => bits.isLt
  unfold Float.Model.unpack UnpackedFloat.unpack at hFinite
  dsimp only at hFinite
  split at hFinite
  · split at hFinite <;> cases hFinite
  split at hFinite
  next hLeast =>
    split at hFinite
    · cases hFinite
    · rw [UnpackedFloat.finite.injEq, hLeast] at hFinite
      obtain ⟨-, rfl, rfl⟩ := hFinite
      exact
        ⟨(hBits _).trans (by norm_num), Or.inr (by decide)⟩
  next =>
    rw [UnpackedFloat.finite.injEq,
      Rounding.toNat_append_one] at hFinite
    obtain ⟨-, rfl, -⟩ := hFinite
    refine ⟨?_, Or.inl (Nat.le_add_right _ _)⟩
    calc
      _ < 2 ^ 52 + 2 ^ 52 := Nat.add_lt_add_left (hBits _) _
      _ = 2 ^ 53 := by norm_num

------------------------------------------------------------
-- Comparisons With One
------------------------------------------------------------

theorem le_iff
    (p q : Float) :
    p ≤ q ↔
      p.toModel.unpack.le q.toModel.unpack = true := by
  change decide (p.toModel ≤ q.toModel) = true ↔ _
  rw [decide_eq_true_iff]
  rfl

/- Exponents are compared first, and then mantissas. -/
theorem isLE_one_iff
    {mantissa : Nat}
    {exponent : Int}
    (hLess : mantissa < 2 ^ 53)
    (hFull : 2 ^ 52 ≤ mantissa ∨ exponent = -1074) :
    ((compare exponent (-52)).then
        (compare mantissa (2 ^ 52))).isLE = true ↔
      (mantissa * (2 : ℚ) ^ exponent) ≤ 1 := by
  have hMantissa : (mantissa : ℚ) < 2 ^ 53 := by
    exact_mod_cast hLess
  have hPower : (0 : ℚ) < 2 ^ exponent := by
    positivity
  rcases lt_trichotomy exponent (-52) with
    hSmall | rfl | hGreat
  · rw [compare_lt_iff_lt.mpr hSmall]
    have hBelow : (2 : ℚ) ^ exponent ≤ 2 ^ (-53 : Int) :=
      zpow_le_zpow_right₀ (by norm_num) (by omega)
    refine iff_of_true rfl ?_
    calc
      (mantissa : ℚ) * 2 ^ exponent ≤
          2 ^ 53 * 2 ^ (-53 : Int) :=
        mul_le_mul hMantissa.le hBelow hPower.le
          (by norm_num)
      _ = 1 := by norm_num
  · have hScale :
        (mantissa : ℚ) * 2 ^ (-52 : Int) ≤ 1 ↔
          (mantissa : ℚ) ≤ 2 ^ 52 := by
      rw [zpow_neg, ← div_eq_mul_inv,
        div_le_one (by norm_num)]
      norm_num
    rw [compare_eq_iff_eq.mpr rfl, hScale]
    change (compare mantissa (2 ^ 52)).isLE = true ↔ _
    rw [Nat.isLE_compare]
    exact_mod_cast Iff.rfl
  · rw [compare_gt_iff_gt.mpr hGreat]
    have hAbove : (2 : ℚ) ^ (-51 : Int) ≤ 2 ^ exponent :=
      zpow_le_zpow_right₀ (by norm_num) (by omega)
    have hSome : (2 : ℚ) ^ 52 ≤ mantissa := by
      rcases hFull with hFull | hLeast
      · exact_mod_cast hFull
      · omega
    refine iff_of_false Bool.false_ne_true (not_le.mpr ?_)
    calc
      (1 : ℚ) < 2 ^ 52 * 2 ^ (-51 : Int) := by norm_num
      _ ≤ mantissa * 2 ^ exponent :=
        mul_le_mul hSome hAbove (by positivity)
          (by positivity)

------------------------------------------------------------
-- Probabilities
------------------------------------------------------------

/-
  What passes for a probability is a number between zero and
  one; neither infinities nor what is no number do.
-/
theorem isProbability_iff
    (p : Float) :
    Setup.isProbability p = true ↔
      ∃ q, value? p = some q ∧ 0 ≤ q ∧ q ≤ 1 := by
  have hZero :
      (0.0 : Float).toModel.unpack = .zero .positive := rfl
  have hOne :
      (1.0 : Float).toModel.unpack =
        .finite .positive (2 ^ 52) (-52) (by decide) := rfl
  unfold Setup.isProbability value?
  rw [Bool.and_eq_true, decide_eq_true_iff,
    decide_eq_true_iff, le_iff, le_iff, hZero, hOne]
  cases hValue : p.toModel.unpack with
  | notANumber => exact iff_of_false (by decide) (by simp)
  | infinity sign =>
      refine iff_of_false ?_ (by simp)
      cases sign <;> decide
  | zero sign =>
      refine iff_of_true ?_ ⟨0, rfl, le_rfl, zero_le_one⟩
      cases sign <;> decide
  | finite sign mantissa exponent hPos =>
      have hSome : (0 : ℚ) < mantissa * 2 ^ exponent := by
        positivity
      cases sign with
      | negative =>
          have hLess :
              factor .negative *
                  (mantissa * (2 : ℚ) ^ exponent) < 0 := by
            simpa [factor] using hSome
          refine iff_of_false (fun hLe => ?_) ?_
          · exact absurd hLe.1 Bool.false_ne_true
          · rintro ⟨q, hSame, hLower, -⟩
            obtain rfl := Option.some.inj hSame
            exact absurd hLower (not_le.mpr hLess)
      | positive =>
          rcases mantissa_bounds hValue with ⟨hFew, hFull⟩
          have hUpper := isLE_one_iff hFew hFull
          simp only [Option.some.injEq, factor, one_mul,
            exists_eq_left']
          constructor
          · rintro ⟨-, hLe⟩
            exact ⟨hSome.le, hUpper.mp hLe⟩
          · rintro ⟨-, hLe⟩
            exact ⟨rfl, hUpper.mpr hLe⟩

end Probability

end CollectionTree
