import Mathlib.Data.Rat.Floor
import Mathlib.Tactic

/-! Rounding of exact rationals the way decimal libraries do it: halves go away from zero,
and a quotient is rounded to sixteen places. -/
namespace Tierflow
namespace Rounding

/-- The nearest integer, halves going away from zero. -/
def nearest (q : ℚ) : ℤ := if 0≤q then ⌊q+1/2⌋ else -⌊-q+1/2⌋

/-- `Round(n)`: the nearest multiple of `10⁻ⁿ`. -/
def roundTo (n : ℕ) (q : ℚ) : ℚ := nearest (q*10^n)/10^n

/-- `Div`: quotients keep sixteen decimal places. -/
def quotient (a b : ℚ) : ℚ := roundTo 16 (a/b)

/-- `IntPart`: the integer part, fractions going towards zero. -/
def intPart (q : ℚ) : ℤ := if 0≤q then ⌊q⌋ else ⌈q⌉

lemma nearest_nonneg {q : ℚ} (h : 0≤q) : 0≤nearest q := by
  rw [nearest,if_pos h]
  exact Int.floor_nonneg.mpr (by linarith)

theorem abs_nearest_sub_le (q : ℚ) : |(nearest q : ℚ)-q| ≤ 1/2 := by
  unfold nearest
  rw [abs_le]
  split_ifs with h
  · have hl := Int.floor_le (q+1/2)
    have hu := Int.lt_floor_add_one (q+1/2)
    constructor <;> linarith
  · have hl := Int.floor_le (-q+1/2)
    have hu := Int.lt_floor_add_one (-q+1/2)
    push_cast
    constructor <;> linarith

theorem roundTo_bounds (n : ℕ) (q : ℚ) :
    q-1/(2*10^n) ≤ roundTo n q ∧ roundTo n q ≤ q+1/(2*10^n) := by
  have hp : (0 : ℚ)<10^n := by positivity
  have h := abs_le.mp (abs_nearest_sub_le (q*10^n))
  have he : q = (q*10^n)/10^n := by field_simp
  have hs : (1 : ℚ)/(2*10^n) = (1/2)/10^n := by field_simp
  unfold roundTo
  constructor
  · rw [hs]
    nth_rewrite 1 [he]
    rw [←sub_div]
    exact (div_le_div_iff_of_pos_right hp).mpr (by linarith)
  · rw [hs]
    nth_rewrite 2 [he]
    rw [←add_div]
    exact (div_le_div_iff_of_pos_right hp).mpr (by linarith)

lemma roundTo_nonneg (n : ℕ) {q : ℚ} (h : 0≤q) : 0 ≤ roundTo n q := by
  have hq : 0≤q*10^n := by positivity
  have hn : (0 : ℚ)≤nearest (q*10^n) := by exact_mod_cast nearest_nonneg hq
  unfold roundTo
  positivity

/-- A rounded value is a whole number of units of its last place. -/
lemma roundTo_mul_pow (n : ℕ) (q : ℚ) : roundTo n q*10^n = nearest (q*10^n) := by
  unfold roundTo
  field_simp

lemma quotient_nonneg {a b : ℚ} (ha : 0≤a) (hb : 0≤b) : 0≤quotient a b :=
  roundTo_nonneg 16 (div_nonneg ha hb)

theorem quotient_bounds (a b : ℚ) :
    a/b-1/(2*10^16) ≤ quotient a b ∧ quotient a b ≤ a/b+1/(2*10^16) := roundTo_bounds 16 (a/b)

lemma nearest_neg (q : ℚ) : nearest (-q) = -nearest q := by
  unfold nearest
  rcases lt_trichotomy q 0 with h | rfl | h
  · rw [if_pos (by linarith),if_neg (not_le.mpr h),neg_neg]
  · norm_num
  · rw [if_neg (by linarith),if_pos h.le,neg_neg]

lemma roundTo_neg (n : ℕ) (q : ℚ) : roundTo n (-q) = -roundTo n q := by
  unfold roundTo
  rw [neg_mul,nearest_neg]
  push_cast
  ring

/-- A value just below an integer is rounded up to it. -/
lemma roundTo_of_le (n : ℕ) {q : ℚ} {z : ℤ} (h0 : 0≤q) (hl : q≤z) (hu : z≤q+1/(2*10^n)) : roundTo n q = z := by
  have hp : (0 : ℚ)<10^n := by positivity
  have hz : nearest (q*10^n) = z*10^n := by
    rw [nearest,if_pos (by positivity),Int.floor_eq_iff]
    have h1 : q*10^n≤z*10^n := mul_le_mul_of_nonneg_right hl hp.le
    have h2 : (z : ℚ)*10^n≤q*10^n+1/2 := by
      calc (z : ℚ)*10^n≤(q+1/(2*10^n))*10^n := mul_le_mul_of_nonneg_right hu hp.le
        _ = q*10^n+1/2 := by field_simp
    push_cast
    constructor <;> linarith
  rw [roundTo,hz]
  push_cast
  field_simp

lemma intPart_of_nonneg {q : ℚ} (h : 0≤q) : intPart q = ⌊q⌋ := if_pos h

/-- The integer part lies between zero and the value. -/
lemma abs_intPart_le (q : ℚ) : |(intPart q : ℚ)| ≤ |q| := by
  unfold intPart
  split_ifs with h
  · rw [abs_of_nonneg h,abs_of_nonneg (by exact_mod_cast Int.floor_nonneg.mpr h)]
    exact Int.floor_le q
  · have hc : (⌈q⌉ : ℚ)≤0 := by exact_mod_cast Int.ceil_le.mpr (by push_cast; linarith)
    rw [abs_of_nonpos hc,abs_of_nonpos (show q≤0 by linarith)]
    linarith [Int.le_ceil q]

lemma nearest_mono {p q : ℚ} (h0 : 0≤p) (h : p≤q) : nearest p≤nearest q := by
  rw [nearest,nearest,if_pos h0,if_pos (h0.trans h)]
  exact Int.floor_le_floor (by linarith)

lemma roundTo_mono (n : ℕ) {p q : ℚ} (h0 : 0≤p) (h : p≤q) : roundTo n p ≤ roundTo n q := by
  have hp : (0 : ℚ)<10^n := by positivity
  have hm := nearest_mono (mul_nonneg h0 hp.le) (mul_le_mul_of_nonneg_right h hp.le)
  exact (div_le_div_iff_of_pos_right hp).mpr (by exact_mod_cast hm)

/-- A multiple of a hundredth is what it rounds to. -/
lemma roundTo_cents {q : ℚ} {n : ℕ} (h : q*100 = n) : roundTo 2 q = q := by
  have hn : nearest (n : ℚ) = n := by
    rw [nearest,if_pos (Nat.cast_nonneg n),Int.floor_eq_iff]
    push_cast
    constructor <;> linarith
  have he : q*10^2 = n := by linarith
  rw [roundTo,he,hn]
  push_cast
  linarith

end Rounding
end Tierflow
