import Tierflow.Foundation.Machine
import Tierflow.Foundation.Shares
import Tierflow.Routing.Candidates

/-! The weighted pick in 64-bit arithmetic: its sums wrap around, and rolling below a number that is not positive
stops the program. -/
namespace Tierflow
namespace Routing
namespace MachinePick
open Selection (draws drawBelow share)

inductive PickFailure
  | channelNotFound
  | panicked
  deriving DecidableEq, Repr

/-- The weight is an unsigned number, converted. -/
def getWeight (c : Channel) : ℤ := wrap64 c.getWeight

def sumWeight (l : List (ℕ × Channel)) : ℤ := l.foldl (fun sum c => wrap64 (sum+getWeight c.2)) 0

/-- The sum, the factor and the adjustment that smooth the weights. -/
def smoothing (l : List (ℕ × Channel)) : ℤ × ℤ × ℤ :=
  if sumWeight l = 0 then (wrap64 (l.length*100),1,100)
  else if (sumWeight l).tdiv l.length<10 then (sumWeight l,100,0)
  else (sumWeight l,1,0)

def totalWeight (l : List (ℕ × Channel)) : ℤ := wrap64 ((smoothing l).1*(smoothing l).2.1)

def intn (n : ℤ) (roll : ℕ) : Except PickFailure ℤ := if 0<n then .ok (roll%n) else .error .panicked

def smoothed (l : List (ℕ × Channel)) (c : ℕ × Channel) : ℤ :=
  wrap64 (wrap64 (getWeight c.2*(smoothing l).2.1)+(smoothing l).2.2)

def pickBelow (w : ℕ × Channel → ℤ) : List (ℕ × Channel) → ℤ → Option (ℕ × Channel)
  | [],_ => none
  | c::l,r => if wrap64 (r-w c)<0 then some c else pickBelow w l (wrap64 (r-w c))

def weightedPickChannel (l : List (ℕ × Channel)) (roll : ℕ) : Except PickFailure (ℕ × Channel) :=
  match l with
  | [] => .error .channelNotFound
  | [c] => .ok c
  | l => do
    let randomWeight ← intn (totalWeight l) roll
    orFail .channelNotFound (pickBelow (smoothed l) l randomWeight)

/-! ## The weights that are meant -/

def effectiveWeight (l : List (ℕ × Channel)) (c : ℕ × Channel) : ℕ :=
  c.2.getWeight*(Routing.smoothing l).2.1+(Routing.smoothing l).2.2

def exactTotal (l : List (ℕ × Channel)) : ℕ := (Routing.smoothing l).1*(Routing.smoothing l).2.1

/-- Every roll picks a candidate, and each candidate has as many rolls as it weighs. -/
def ExactShares (l : List (ℕ × Channel)) : Prop :=
  (∀ roll, ∃ c∈l, weightedPickChannel l roll = .ok c) ∧
    (2 ≤ l.length → ∀ c, draws (fun r => (weightedPickChannel l r).toOption) (totalWeight l).toNat c =
      share (effectiveWeight l) l c)

section Exact
variable {l : List (ℕ × Channel)} {c : ℕ × Channel}

lemma sum_effectiveWeight (hne : l≠[]) : (l.map (effectiveWeight l)).sum = exactTotal l := (smoothing_spec hne).1

lemma exactTotal_pos (hne : l≠[]) : 0<exactTotal l := by
  rw [←sum_effectiveWeight hne]
  exact (smoothing_spec hne).2.1

lemma factor_pos (l : List (ℕ × Channel)) : 1≤(Routing.smoothing l).2.1 := by
  unfold Routing.smoothing
  dsimp only
  split_ifs <;> simp

lemma sum_le_exactTotal (hne : l≠[]) : (l.map (fun c => c.2.getWeight)).sum ≤ exactTotal l := by
  rw [←sum_effectiveWeight hne]
  apply List.sum_le_sum
  intro c _
  exact (Nat.le_mul_of_pos_right _ (factor_pos l)).trans (Nat.le_add_right _ _)

lemma effectiveWeight_le (hc : c∈l) : effectiveWeight l c ≤ exactTotal l := by
  rw [←sum_effectiveWeight (List.ne_nil_of_mem hc)]
  exact List.single_le_sum (fun _ _ => Nat.zero_le _) _ (List.mem_map_of_mem hc)

lemma weight_lt (h : exactTotal l<2^63) (hc : c∈l) : c.2.getWeight*(Routing.smoothing l).2.1<2^63 :=
  ((Nat.le_add_right _ _).trans (effectiveWeight_le hc)).trans_lt h

lemma wrap64_natCast {n : ℕ} (h : n<2^63) : wrap64 (n : ℤ) = n := wrap64_of_range (by omega) (by omega)

lemma getWeight_eq (h : exactTotal l<2^63) (hc : c∈l) : getWeight c.2 = c.2.getWeight :=
  wrap64_natCast ((Nat.le_mul_of_pos_right _ (factor_pos l)).trans_lt (weight_lt h hc))

lemma foldl_sum (l : List (ℕ × Channel)) : ∀ s : ℕ, s+(l.map (fun c => c.2.getWeight)).sum<2^63 →
    l.foldl (fun sum c => wrap64 (sum+getWeight c.2)) (s : ℤ) =
      ((s+(l.map (fun c => c.2.getWeight)).sum : ℕ) : ℤ) := by
  induction l with
  | nil => exact fun _ _ => rfl
  | cons c l ih =>
    intro s h
    rw [List.map_cons,List.sum_cons] at h
    have hstep : wrap64 (s+getWeight c.2) = ((s+c.2.getWeight : ℕ) : ℤ) := by
      rw [getWeight,wrap64_natCast (by omega),←Nat.cast_add,wrap64_natCast (by omega)]
    rw [List.foldl_cons,hstep,ih _ (by omega),List.map_cons,List.sum_cons,Nat.add_assoc]

/-- Where the total fits, nothing wraps. -/
lemma smoothing_eq (hne : l≠[]) (h : exactTotal l<2^63) : smoothing l =
    (((Routing.smoothing l).1 : ℤ),((Routing.smoothing l).2.1 : ℤ),((Routing.smoothing l).2.2 : ℤ)) := by
  have hsum : sumWeight l = ((l.map (fun c => c.2.getWeight)).sum : ℕ) := by
    have hfold := foldl_sum l 0 (by have := sum_le_exactTotal hne; omega)
    rw [Nat.zero_add] at hfold
    exact hfold
  unfold exactTotal at h
  unfold smoothing
  rw [hsum]
  unfold Routing.smoothing at h ⊢
  dsimp only at h ⊢
  by_cases hz : (l.map (fun c => c.2.getWeight)).sum = 0
  · rw [if_pos hz] at h ⊢
    rw [if_pos (by rw [hz]; rfl)]
    change l.length*100*1<2^63 at h
    have hlength : wrap64 ((l.length : ℤ)*100) = ((l.length*100 : ℕ) : ℤ) := by
      rw [Nat.cast_mul]
      exact wrap64_of_range (by omega) (by push_cast; omega)
    rw [hlength]
    rfl
  · rw [if_neg hz,if_neg (by exact_mod_cast hz),←Int.ofNat_tdiv]
    by_cases hten : (l.map (fun c => c.2.getWeight)).sum/l.length<10
    · rw [if_pos hten,if_pos (by exact_mod_cast hten)]
      rfl
    · rw [if_neg hten,if_neg (by exact_mod_cast hten)]
      rfl

lemma totalWeight_eq (hne : l≠[]) (h : exactTotal l<2^63) : totalWeight l = exactTotal l := by
  unfold totalWeight
  rw [smoothing_eq hne h]
  dsimp only
  rw [←Nat.cast_mul]
  exact wrap64_natCast h

lemma smoothed_eq (h : exactTotal l<2^63) (hc : c∈l) : smoothed l c = effectiveWeight l c := by
  unfold smoothed
  rw [smoothing_eq (List.ne_nil_of_mem hc) h]
  dsimp only
  rw [getWeight_eq h hc,←Nat.cast_mul,wrap64_natCast (weight_lt h hc),←Nat.cast_add]
  exact wrap64_natCast ((effectiveWeight_le hc).trans_lt h)

lemma pickBelow_eq {w : ℕ × Channel → ℤ} {f : ℕ × Channel → ℕ} {r : ℤ} (hw : ∀ c∈l, w c = f c ∧ f c<2^63)
    (h0 : 0 ≤ r) (hr : r<2^63) : pickBelow w l r = drawBelow f l r := by
  induction l generalizing r with
  | nil => rfl
  | cons c l ih =>
    obtain ⟨hc,hlt⟩ := hw c List.mem_cons_self
    rw [pickBelow,drawBelow,hc,wrap64_of_range (by omega) (by omega)]
    split_ifs with hneg
    · rfl
    · exact ih (fun d hd => hw d (List.mem_cons_of_mem _ hd)) (by omega) (by omega)

/-- Where the total fits, the pick is the one without bounds. -/
lemma weightedPickChannel_eq (h : exactTotal l<2^63) (hlength : 2 ≤ l.length) (roll : ℕ) :
    weightedPickChannel l roll = orFail .channelNotFound
      (drawBelow (effectiveWeight l) l ((roll%exactTotal l : ℕ) : ℤ)) := by
  match l with
  | c::d::l =>
    have hne : c::d::l≠[] := List.cons_ne_nil _ _
    have hpos := exactTotal_pos hne
    have hmod := Nat.mod_lt roll hpos
    have hintn : intn (totalWeight (c::d::l)) roll = .ok ((roll%exactTotal (c::d::l) : ℕ) : ℤ) := by
      rw [totalWeight_eq hne h]
      exact if_pos (by omega)
    have hpick := pickBelow_eq (l := c::d::l) (w := smoothed (c::d::l)) (f := effectiveWeight (c::d::l))
      (r := ((roll%exactTotal (c::d::l) : ℕ) : ℤ))
      (fun e he => ⟨smoothed_eq h he,(effectiveWeight_le he).trans_lt h⟩) (by omega) (by omega)
    change (intn (totalWeight (c::d::l)) roll >>= fun r =>
      orFail .channelNotFound (pickBelow (smoothed (c::d::l)) (c::d::l) r)) = _
    rw [hintn,ok_bind,hpick]

lemma exactShares_of_lt (h : exactTotal l<2^63) (hlength : 2 ≤ l.length) : ExactShares l := by
  have hne : l≠[] := List.length_pos_iff.mp (by omega)
  have hpos := exactTotal_pos hne
  constructor
  · intro roll
    have hlt : ((roll%exactTotal l : ℕ) : ℤ)<((l.map (effectiveWeight l)).sum : ℕ) := by
      rw [sum_effectiveWeight hne]
      exact Int.ofNat_lt.mpr (Nat.mod_lt roll hpos)
    obtain ⟨c,hc⟩ := Selection.exists_drawBelow_of_lt _ (Int.natCast_nonneg _) hlt
    refine ⟨c,?_,?_⟩
    · exact ((Selection.exists_drawBelow_iff _ l c).mp ⟨_,Int.ofNat_lt.mp hlt,hc⟩).1
    · rw [weightedPickChannel_eq h hlength,hc]
      rfl
  · intro _ c
    rw [totalWeight_eq hne h,Int.toNat_natCast,←Selection.draws_drawBelow (effectiveWeight l) l c,
      sum_effectiveWeight hne]
    apply Selection.draws_congr
    intro r hr
    rw [weightedPickChannel_eq h hlength,Nat.mod_eq_of_lt hr]
    cases drawBelow (effectiveWeight l) l r <;> rfl

end Exact

/-- The pick is exact for a single candidate, and otherwise exactly when the effective weights together are a 64-bit
integer. -/
theorem exactShares_iff (l : List (ℕ × Channel)) (hne : l≠[]) :
    ExactShares l ↔ l.length = 1 ∨ exactTotal l<2^63 := by
  by_cases hone : l.length = 1
  · apply iff_of_true ?_ (.inl hone)
    obtain ⟨c,rfl⟩ := List.length_eq_one_iff.mp hone
    exact ⟨fun _ => ⟨c,List.mem_singleton_self c,rfl⟩,fun h => absurd h (by simp)⟩
  · have hlength : 2 ≤ l.length := by
      have := List.length_pos_iff.mpr hne
      omega
    rw [or_iff_right hone]
    constructor
    · intro h
      by_contra hlarge
      have hlt : (totalWeight l).toNat<(l.map (effectiveWeight l)).sum := by
        have := wrap64_lt ((smoothing l).1*(smoothing l).2.1)
        rw [sum_effectiveWeight hne]
        unfold totalWeight
        omega
      obtain ⟨c,-,hc⟩ := Selection.not_exact_of_lt hlt (fun r => (weightedPickChannel l r).toOption)
      exact hc (h.2 hlength c)
    · exact fun h => exactShares_of_lt h hlength

/-- Two channels of one weight. -/
def twins (weight : ℕ) : List (ℕ × Channel) :=
  let c : Channel := ⟨.enabled,some weight,"m","default",none,["k"],⟨false,[],0,.random⟩⟩
  [(1,c),(2,c)]

theorem exactShares_twins : ExactShares (twins 3) :=
  (exactShares_iff (twins 3) (by decide)).mpr (.inr (by decide))

/-- Weights whose sum is no 64-bit integer stop the program. -/
theorem large_weights_panic : ¬ExactShares (twins (2^62)) := by
  intro h
  obtain ⟨c,-,hc⟩ := h.1 0
  have hpanic : weightedPickChannel (twins (2^62)) 0 = .error .panicked := by decide
  rw [hpanic] at hc
  contradiction

end MachinePick
end Routing
end Tierflow
