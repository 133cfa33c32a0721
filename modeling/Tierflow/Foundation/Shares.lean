import Tierflow.Foundation.Selection

/-! How many of the numbers that can be rolled draw what. Below the total each candidate has as many as it weighs;
below less than the total some candidate has fewer. -/
namespace Tierflow
namespace Selection
variable {α : Type*} [DecidableEq α]

/-- The numbers below a bound that draw a candidate. -/
def draws (pick : ℕ → Option α) (n : ℕ) (a : α) : ℕ := Nat.count (fun r => pick r = some a) n

/-- The weight of a candidate, as often as it is in the list. -/
def share (f : α → ℕ) (l : List α) (a : α) : ℕ := l.count a*f a

lemma draws_congr {pick pick' : ℕ → Option α} {n : ℕ} (h : ∀ r < n, pick r = pick' r) (a : α) :
    draws pick n a = draws pick' n a := by
  induction n with
  | zero => rfl
  | succ n ih =>
    unfold draws at ih ⊢
    rw [Nat.count_succ,Nat.count_succ,ih (fun r hr => h r (by omega)),h n (by omega)]

/-- Each candidate has as many numbers below the total as it weighs. -/
theorem draws_drawBelow (f : α → ℕ) (l : List α) (a : α) :
    draws (fun r => drawBelow f l (r : ℤ)) (l.map f).sum a = share f l a := by
  unfold draws share
  dsimp only
  induction l with
  | nil => simp
  | cons b l ih =>
    have htail : Nat.count (fun r => drawBelow f (b::l) ((f b+r : ℕ) : ℤ) = some a) (l.map f).sum =
        l.count a*f a := by
      rw [←ih]
      congr 1
      funext r
      have hrest : ((f b+r : ℕ) : ℤ)-f b = r := by omega
      rw [drawBelow,hrest,if_neg (by omega)]
    rw [List.map_cons,List.sum_cons,Nat.count_add,htail,List.count_cons]
    have hhead : ∀ r < f b, drawBelow f (b::l) (r : ℤ) = some b := by
      intro r hr
      rw [drawBelow,if_pos (by omega)]
    by_cases hb : b = a
    · subst hb
      rw [Nat.count_of_forall hhead,if_pos (beq_self_eq_true b),Nat.add_mul,Nat.one_mul,Nat.add_comm]
    · rw [Nat.count_of_forall_not,if_neg (by simpa using hb),Nat.zero_add,Nat.add_zero]
      · intro r hr hsome
        rw [hhead r hr] at hsome
        exact hb (Option.some.inj hsome)

/-- No number draws two. -/
lemma sum_draws_le (pick : ℕ → Option α) (s : Finset α) (n : ℕ) : ∑ a∈s, draws pick n a ≤ n := by
  unfold draws
  induction n with
  | zero => simp
  | succ n ih =>
    simp only [Nat.count_succ]
    rw [Finset.sum_add_distrib]
    apply Nat.add_le_add ih
    cases pick n with
    | none => simp
    | some b =>
      simp only [Option.some.injEq]
      rw [Finset.sum_ite_eq]
      split_ifs <;> omega

/-- Nothing that is rolled below less than the total gives all candidates what they weigh. -/
theorem not_exact_of_lt {f : α → ℕ} {l : List α} {n : ℕ} (h : n<(l.map f).sum) (pick : ℕ → Option α) :
    ∃ a∈l, draws pick n a≠share f l a := by
  by_contra hall
  push Not at hall
  have hsum : ∑ a∈l.toFinset, draws pick n a = (l.map f).sum := by
    rw [Finset.sum_list_map_count]
    apply Finset.sum_congr rfl
    intro a ha
    rw [hall a (List.mem_toFinset.mp ha),share,smul_eq_mul]
  have hle := sum_draws_le pick l.toFinset n
  omega

end Selection
end Tierflow
