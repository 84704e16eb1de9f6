import Mathlib.Data.Int.Log
import Mathlib.Data.Rat.Floor

/-!
# Rounding to a binary floating-point format

A format keeps `precision` significant bits, as long as the last of them is worth at least
`2 ^ minExponent`. A number is rounded to the nearest one of the format, and if two of them are as
near, to the one whose last bit is 0. There is no largest exponent: what overflows is not rounded
here.
-/

namespace Rounding

/-! ## To an integer -/

/-- The nearest integer, the even one of two. -/
def nearestEven (q : ℚ) : ℤ :=
  if q - ⌊q⌋ < 1 / 2 then ⌊q⌋
  else if 1 / 2 < q - ⌊q⌋ then ⌊q⌋ + 1
  else if ⌊q⌋ % 2 = 0 then ⌊q⌋
  else ⌊q⌋ + 1

section
variable {q q' : ℚ} {n : ℤ}

theorem floor_le_nearestEven (q : ℚ) : ⌊q⌋ ≤ nearestEven q := by
  unfold nearestEven
  split_ifs <;> omega

theorem nearestEven_le_floor (q : ℚ) : nearestEven q ≤ ⌊q⌋ + 1 := by
  unfold nearestEven
  split_ifs <;> omega

@[simp] theorem nearestEven_intCast (n : ℤ) : nearestEven n = n := by
  simp [nearestEven]

theorem nearestEven_mono (h : q ≤ q') : nearestEven q ≤ nearestEven q' := by
  obtain hlt | heq := (Int.floor_mono h).lt_or_eq
  · calc nearestEven q ≤ ⌊q⌋ + 1 := nearestEven_le_floor q
      _ ≤ ⌊q'⌋ := hlt
      _ ≤ nearestEven q' := floor_le_nearestEven q'
  · have hfrac : q - ⌊q⌋ ≤ q' - ⌊q⌋ := sub_le_sub_right h _
    unfold nearestEven
    rw [← heq]
    -- both lie between the same two integers, and `q'` is not the lower one
    split_ifs with h₁ h₂ h₃ h₄ h₅ h₆
    any_goals omega
    all_goals exact absurd hfrac (by linarith)

theorem nearestEven_le (h : q ≤ n) : nearestEven q ≤ n :=
  (nearestEven_mono h).trans_eq (nearestEven_intCast n)

theorem le_nearestEven (h : n ≤ q) : n ≤ nearestEven q :=
  (nearestEven_intCast n).symm.trans_le (nearestEven_mono h)

end

/-! ## To a format -/

structure Format where
  precision : ℕ
  minExponent : ℤ
  pos : 0 < precision

/-- Single precision. -/
def binary32 : Format := ⟨24, -149, by decide⟩

namespace Format

/-- What the last bit of `x` is worth is this power of two. -/
def lastBit (f : Format) (x : ℚ) : ℤ := max (Int.log 2 x + 1 - f.precision) f.minExponent

/-- `round`, where there is no sign. -/
def roundAbs (f : Format) (x : ℚ) : ℚ := nearestEven (x / 2 ^ f.lastBit x) * 2 ^ f.lastBit x

def round (f : Format) (x : ℚ) : ℚ := if 0 ≤ x then f.roundAbs x else -f.roundAbs (-x)

section
variable {f : Format} {x y : ℚ} {j k : ℤ}

theorem exists_zpow_eq (h : j ≤ k) : ∃ n : ℤ, (2 : ℚ) ^ k = n * 2 ^ j := by
  refine ⟨2 ^ (k - j).toNat, ?_⟩
  have hpow : ((2 ^ (k - j).toNat : ℤ) : ℚ) = (2 : ℚ) ^ (k - j) := by
    rw [Int.cast_pow, Int.cast_ofNat, ← zpow_natCast, Int.toNat_of_nonneg (by omega)]
  rw [hpow, ← zpow_add₀ two_ne_zero, sub_add_cancel]

/-- A power of two that the format has is not passed. -/
theorem roundAbs_le_zpow (hk : f.lastBit x ≤ k) (hx : x ≤ 2 ^ k) : f.roundAbs x ≤ 2 ^ k := by
  have hpos : (0 : ℚ) < 2 ^ f.lastBit x := zpow_pos two_pos _
  obtain ⟨n, hn⟩ := exists_zpow_eq hk
  rw [hn] at hx ⊢
  exact mul_le_mul_of_nonneg_right
    (Int.cast_le.mpr (nearestEven_le ((div_le_iff₀ hpos).mpr hx))) hpos.le

theorem zpow_le_roundAbs (hk : f.lastBit x ≤ k) (hx : 2 ^ k ≤ x) : 2 ^ k ≤ f.roundAbs x := by
  have hpos : (0 : ℚ) < 2 ^ f.lastBit x := zpow_pos two_pos _
  obtain ⟨n, hn⟩ := exists_zpow_eq hk
  rw [hn] at hx ⊢
  exact mul_le_mul_of_nonneg_right
    (Int.cast_le.mpr (le_nearestEven ((le_div_iff₀ hpos).mpr hx))) hpos.le

theorem roundAbs_nonneg (h : 0 ≤ x) : 0 ≤ f.roundAbs x := by
  have hpos : (0 : ℚ) < 2 ^ f.lastBit x := zpow_pos two_pos _
  refine mul_nonneg (Int.cast_nonneg (le_nearestEven ?_)) hpos.le
  simpa using div_nonneg h hpos.le

theorem lastBit_mono (hx : 0 < x) (h : x ≤ y) : f.lastBit x ≤ f.lastBit y :=
  max_le_max_right _ (Int.sub_le_sub_right (Int.add_le_add_right (Int.log_mono_right hx h) 1) _)

theorem roundAbs_mono (hx : 0 ≤ x) (h : x ≤ y) : f.roundAbs x ≤ f.roundAbs y := by
  obtain rfl | hx := hx.eq_or_lt
  · simpa [roundAbs, nearestEven] using roundAbs_nonneg (f := f) h
  obtain heq | hlt := (lastBit_mono (f := f) hx h).eq_or_lt
  · have hpos : (0 : ℚ) < 2 ^ f.lastBit y := zpow_pos two_pos _
    rw [roundAbs, roundAbs, heq]
    exact mul_le_mul_of_nonneg_right
      (Int.cast_le.mpr (nearestEven_mono (div_le_div_of_nonneg_right h hpos.le))) hpos.le
  · -- the largest power of two below `y` is between them
    have hprec := f.pos
    have hbits : f.lastBit x < Int.log 2 y + 1 - f.precision ∧ f.lastBit y ≤ Int.log 2 y := by
      simp only [lastBit] at hlt ⊢
      omega
    have hlog : Int.log 2 x < Int.log 2 y := by
      have hle : Int.log 2 x + 1 - f.precision ≤ f.lastBit x := le_max_left _ _
      omega
    have hxk : x ≤ 2 ^ Int.log 2 y := by
      simpa using ((Int.lt_zpow_iff_log_lt (by decide : 1 < 2) hx).mpr hlog).le
    have hyk : 2 ^ Int.log 2 y ≤ y := by
      simpa using Int.zpow_log_le_self (by decide : 1 < 2) (hx.trans_le h)
    exact (roundAbs_le_zpow (hlt.le.trans hbits.2) hxk).trans (zpow_le_roundAbs hbits.2 hyk)

theorem round_mono (f : Format) (h : x ≤ y) : f.round x ≤ f.round y := by
  unfold round
  split_ifs with hx hy hy
  · exact roundAbs_mono hx h
  · exact absurd (hx.trans h) hy
  · exact (neg_nonpos.mpr (roundAbs_nonneg (neg_nonneg.mpr (not_le.mp hx).le))).trans
      (roundAbs_nonneg hy)
  · exact neg_le_neg (roundAbs_mono (neg_nonneg.mpr (not_le.mp hy).le) (neg_le_neg h))

end

example : binary32.round (1 / 10) = 13421773 / 134217728 := by decide +kernel

end Format

end Rounding
