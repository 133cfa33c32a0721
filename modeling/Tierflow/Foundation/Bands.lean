import Mathlib.Data.List.Perm.Basic
import Mathlib.Tactic

/-! Bands that tile an interval, in whatever order they are listed: each is closed below and open above, only the one
that ends where the interval ends is closed there too. -/
namespace Tierflow
namespace Bands
variable {α β : Type*} [LinearOrder α] (lo hi : β → α)

/-- Each band begins where the one before it ends. -/
def Chain (b : α) : α → List β → Prop
  | a,[] => a = b
  | a,x::l => lo x = a ∧ lo x<hi x ∧ Chain b (hi x) l

/-- In some order the bands are a chain. -/
def Tiles (a b : α) (l : List β) : Prop := ∃ l', l'.Perm l ∧ Chain lo hi b a l'

def Covers (b x : α) (y : β) : Prop := lo y≤x ∧ (x<hi y ∨ (x = b ∧ hi y = b))

variable {lo hi} {a b x : α} {l : List β} {y z : β}

lemma Chain.le (h : Chain lo hi b a l) : a≤b := by
  induction l generalizing a with
  | nil => exact h.le
  | cons c l ih =>
    obtain ⟨rfl,hlt,hrest⟩ := h
    exact hlt.le.trans (ih hrest)

lemma Chain.bounds (h : Chain lo hi b a l) (hy : y∈l) : a≤lo y ∧ lo y<hi y ∧ hi y≤b := by
  induction l generalizing a with
  | nil => exact absurd hy List.not_mem_nil
  | cons c l ih =>
    obtain ⟨rfl,hlt,hrest⟩ := h
    rcases List.mem_cons.mp hy with rfl | hy
    · exact ⟨le_rfl,hlt,hrest.le⟩
    · obtain ⟨hlo,hbounds⟩ := ih hrest hy
      exact ⟨hlt.le.trans hlo,hbounds⟩

lemma Chain.exists_covers (h : Chain lo hi b a l) (hne : a<b) (ha : a≤x) (hb : x≤b) : ∃ y∈l, Covers lo hi b x y := by
  induction l generalizing a with
  | nil => exact absurd h hne.ne
  | cons c l ih =>
    obtain ⟨rfl,hlt,hrest⟩ := h
    by_cases hx : x<hi c
    · exact ⟨c,List.mem_cons_self,ha,.inl hx⟩
    · by_cases htop : hi c = b
      · exact ⟨c,List.mem_cons_self,ha,.inr ⟨le_antisymm hb (htop ▸ not_lt.mp hx),htop⟩⟩
      · obtain ⟨y,hy,hcovers⟩ := ih hrest (lt_of_le_of_ne hrest.le htop) (not_lt.mp hx)
        exact ⟨y,List.mem_cons_of_mem _ hy,hcovers⟩

/-- What covers a point after the first band does not begin before that band ends. -/
lemma Chain.not_both (h : Chain lo hi b a (y::l)) (hz : z∈l) (hy : Covers lo hi b x y) : ¬Covers lo hi b x z := by
  obtain ⟨-,-,hrest⟩ := h
  obtain ⟨hlo,hlt,hle⟩ := hrest.bounds hz
  rintro ⟨hzx,-⟩
  rcases hy.2 with hx | ⟨rfl,htop⟩
  · exact absurd (hlo.trans hzx) (not_le.mpr hx)
  · exact absurd (htop ▸ hlo) (not_le.mpr (hlt.trans_le hle))

lemma Chain.unique (h : Chain lo hi b a l) (hy : y∈l) (hz : z∈l) (hcy : Covers lo hi b x y)
    (hcz : Covers lo hi b x z) : y = z := by
  induction l generalizing a with
  | nil => exact absurd hy List.not_mem_nil
  | cons c l ih =>
    rcases List.mem_cons.mp hy with rfl | hyl
    · rcases List.mem_cons.mp hz with rfl | hzl
      · rfl
      · exact absurd hcz (h.not_both hzl hcy)
    · rcases List.mem_cons.mp hz with rfl | hzl
      · exact absurd hcy (h.not_both hyl hcz)
      · exact ih h.2.2 hyl hzl

/-- Exactly one band covers a point. -/
theorem Tiles.exists_unique (h : Tiles lo hi a b l) (hne : a<b) (ha : a≤x) (hb : x≤b) :
    ∃ y∈l, Covers lo hi b x y ∧ ∀ z∈l, Covers lo hi b x z → z = y := by
  obtain ⟨l',hperm,hchain⟩ := h
  obtain ⟨y,hy,hcovers⟩ := hchain.exists_covers hne ha hb
  refine ⟨y,hperm.mem_iff.mp hy,hcovers,?_⟩
  intro z hz hcz
  exact hchain.unique (hperm.mem_iff.mpr hz) hy hcz hcovers

lemma Tiles.hi_le (h : Tiles lo hi a b l) (hy : y∈l) : hi y≤b := by
  obtain ⟨l',hperm,hchain⟩ := h
  exact (hchain.bounds (hperm.mem_iff.mpr hy)).2.2

lemma Tiles.lo_le (h : Tiles lo hi a b l) (hy : y∈l) : lo y≤b := by
  obtain ⟨l',hperm,hchain⟩ := h
  obtain ⟨-,hlt,hle⟩ := hchain.bounds (hperm.mem_iff.mpr hy)
  exact hlt.le.trans hle

end Bands
end Tierflow
