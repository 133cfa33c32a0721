import Mathlib.Data.ZMod.Basic
import Mathlib.Tactic

/-! Signed 64-bit arithmetic on integers. -/
namespace Tierflow

/-- The 64-bit integer that an integer wraps around to. -/
def wrap64 (x : ℤ) : ℤ := (x+2^63)%2^64-2^63

lemma wrap64_lt (x : ℤ) : wrap64 x<2^63 := by
  unfold wrap64
  omega

lemma wrap64_of_range {x : ℤ} (hl : -2^63≤x) (hu : x<2^63) : wrap64 x=x := by
  unfold wrap64
  omega

/-- The number of 64-bit integers. -/
def wordSize : ℕ := 2^64

/-- Wrapping keeps an integer what it is modulo the number of machine integers. -/
lemma wrap64_cast (x : ℤ) : ((wrap64 x : ℤ) : ZMod wordSize)=x := by
  rw [ZMod.intCast_eq_intCast_iff_dvd_sub]
  unfold wrap64 wordSize
  push_cast
  omega

/-- Two 64-bit integers that agree modulo their number are equal. -/
lemma eq_of_cast_eq {x y : ℤ} (hx : -2^63≤x ∧ x<2^63) (hy : -2^63≤y ∧ y<2^63)
    (h : (x : ZMod wordSize)=y) : x=y := by
  rw [ZMod.intCast_eq_intCast_iff_dvd_sub] at h
  unfold wordSize at h
  push_cast at h
  omega

end Tierflow
