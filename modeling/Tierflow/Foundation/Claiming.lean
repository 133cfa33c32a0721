import Mathlib.Data.List.Count
import Mathlib.Tactic

/-! Things that are claimed one by one: by name, or the first that is left where no name is given. -/
namespace Tierflow
namespace Claiming

variable {α : Type*}

/-- Each thing with a mark that says whether it is claimed. -/
def fresh (things : List α) : List (α × Bool) := things.map (fun a => (a,false))

/-- The first thing that is left, and the pool without it. -/
def claimFirst : List (α × Bool) → Option (α × List (α × Bool))
  | [] => none
  | (a,true)::pool => (claimFirst pool).map (fun r => (r.1,(a,true)::r.2))
  | (a,false)::pool => some (a,(a,true)::pool)

section Claim
variable [DecidableEq α]

def claimNamed (a : α) : List (α × Bool) → List (α × Bool)
  | [] => []
  | (b,claimed)::pool =>
    if claimed = false ∧ b = a then (b,true)::pool else (b,claimed)::claimNamed a pool

variable {pool pool' : List (α × Bool)} {a b : α} {things claims : List α}

lemma count_claimNamed_false : (claimNamed a pool).count (b,false) =
    if b = a then pool.count (b,false)-1 else pool.count (b,false) := by
  induction pool with
  | nil => simp [claimNamed]
  | cons p pool ih =>
    obtain ⟨c,claimed⟩ := p
    by_cases h : claimed = false ∧ c = a
    · obtain ⟨rfl,rfl⟩ := h
      rw [claimNamed,if_pos ⟨rfl,rfl⟩]
      by_cases hb : b = c
      · rw [if_pos hb,hb,List.count_cons_self,List.count_cons_of_ne (by simp)]
        omega
      · rw [if_neg hb,List.count_cons_of_ne (by simp),List.count_cons_of_ne (by simpa using fun h => hb h.symm)]
    · rw [claimNamed,if_neg h,List.count_cons,List.count_cons,ih]
      by_cases hb : b = a
      · rw [if_pos hb,if_pos hb]
        have hne : ¬(c,claimed) = (b,false) := by
          intro heq
          obtain ⟨rfl,rfl⟩ := Prod.mk.inj heq
          exact h ⟨rfl,hb⟩
        rw [if_neg (by simpa using hne)]
        omega
      · rw [if_neg hb,if_neg hb]

lemma count_claimNamed_true : (claimNamed a pool).count (b,true) =
    pool.count (b,true)+if b = a ∧ 0<pool.count (b,false) then 1 else 0 := by
  induction pool with
  | nil => simp [claimNamed]
  | cons p pool ih =>
    obtain ⟨c,claimed⟩ := p
    by_cases h : claimed = false ∧ c = a
    · obtain ⟨rfl,rfl⟩ := h
      rw [claimNamed,if_pos ⟨rfl,rfl⟩]
      by_cases hb : b = c
      · rw [hb,List.count_cons_self,List.count_cons_of_ne (by simp),if_pos ⟨rfl,by simp⟩]
      · rw [List.count_cons_of_ne (by simpa using fun h => hb h.symm),List.count_cons_of_ne (by simp),
          if_neg (fun h => hb h.1),Nat.add_zero]
    · rw [claimNamed,if_neg h,List.count_cons,List.count_cons,ih]
      by_cases hb : b = a
      · have hne : ¬(c,claimed) = (b,false) := by
          intro heq
          obtain ⟨rfl,rfl⟩ := Prod.mk.inj heq
          exact h ⟨rfl,hb⟩
        rw [List.count_cons_of_ne hne]
        omega
      · have hother : ∀ n : ℕ, (if b = a ∧ 0<n then 1 else 0) = 0 := fun n => if_neg (fun h => hb h.1)
        rw [hother,hother]
        omega

lemma claimFirst_none (h : claimFirst pool = none) (a : α) : pool.count (a,false) = 0 := by
  induction pool using claimFirst.induct with
  | case1 => rfl
  | case2 b pool ih =>
    rw [claimFirst,Option.map_eq_none_iff] at h
    rw [List.count_cons_of_ne (by simp),ih h]
  | case3 b pool =>
    rw [claimFirst] at h
    contradiction

/-- One thing with the name is claimed. -/
lemma claimFirst_some (h : claimFirst pool = some (a,pool')) :
    0<pool.count (a,false) ∧ ∀ b,
      pool'.count (b,false) = (if b = a then pool.count (b,false)-1 else pool.count (b,false)) ∧
      pool'.count (b,true) = pool.count (b,true)+if b = a then 1 else 0 := by
  induction pool using claimFirst.induct generalizing pool' with
  | case1 =>
    rw [claimFirst] at h
    contradiction
  | case2 c pool ih =>
    rw [claimFirst,Option.map_eq_some_iff] at h
    obtain ⟨⟨a',rest⟩,hrest,heq⟩ := h
    obtain ⟨rfl,rfl⟩ := Prod.mk.inj heq
    obtain ⟨hpos,hcount⟩ := ih hrest
    refine ⟨by rwa [List.count_cons_of_ne (by simp)],fun b => ?_⟩
    obtain ⟨hfalse,htrue⟩ := hcount b
    rw [List.count_cons_of_ne (by simp),List.count_cons_of_ne (by simp),List.count_cons,List.count_cons,hfalse,htrue]
    exact ⟨rfl,by omega⟩
  | case3 c pool =>
    rw [claimFirst] at h
    obtain ⟨rfl,rfl⟩ := Prod.mk.inj (Option.some.inj h)
    refine ⟨by simp,fun b => ?_⟩
    by_cases hb : b = c
    · rw [if_pos hb,if_pos hb,hb,List.count_cons_self,List.count_cons_self,List.count_cons_of_ne (by simp),
        List.count_cons_of_ne (by simp)]
      exact ⟨by omega,rfl⟩
    · have hne : ∀ m : Bool, (c,m)≠(b,m) := fun m heq => hb (Prod.mk.inj heq).1.symm
      rw [if_neg hb,if_neg hb,List.count_cons_of_ne (by simp),List.count_cons_of_ne (hne false),
        List.count_cons_of_ne (hne true),List.count_cons_of_ne (by simp),Nat.add_zero]
      exact ⟨rfl,rfl⟩

/-- The pool of these things after these claims, of which those that name nothing left have no effect. -/
structure After (things claims : List α) (pool : List (α × Bool)) : Prop where
  claimed : ∀ a, pool.count (a,true) = min (things.count a) (claims.count a)
  whole : ∀ a, pool.count (a,true)+pool.count (a,false) = things.count a

lemma after_fresh (things : List α) : After things [] (fresh things) := by
  have hcount : ∀ (m : Bool) (a : α), (fresh things).count (a,m) = if m then 0 else things.count a := by
    intro m a
    induction things with
    | nil => cases m <;> rfl
    | cons b things ih =>
      show List.count (a,m) ((b,false)::fresh things) = _
      rw [List.count_cons,ih,List.count_cons]
      cases m <;> simp
  refine ⟨fun a => ?_,fun a => ?_⟩
  · rw [hcount]
    simp
  · rw [hcount,hcount]
    simp

lemma After.named (h : After things claims pool) (a : α) : After things (claims++[a]) (claimNamed a pool) := by
  refine ⟨fun b => ?_,fun b => ?_⟩
  · have h1 := h.claimed b
    have h2 := h.whole b
    rw [count_claimNamed_true,List.count_append,List.count_singleton]
    by_cases hb : b = a
    · rw [hb] at h1 h2 ⊢
      simp only [true_and,beq_self_eq_true,if_true]
      split_ifs <;> omega
    · rw [if_neg (fun h => hb h.1),if_neg (by simpa using fun h => hb h.symm)]
      omega
  · have h2 := h.whole b
    rw [count_claimNamed_true,count_claimNamed_false]
    by_cases hb : b = a
    · simp only [hb,true_and,if_true]
      rw [hb] at h2
      split_ifs <;> omega
    · rw [if_neg (fun h => hb h.1),if_neg hb]
      omega

/-- What is claimed first is carried by fewer claims than there are things of its name. -/
lemma After.first (h : After things claims pool) (hfirst : claimFirst pool = some (a,pool')) :
    claims.count a<things.count a ∧ After things (claims++[a]) pool' := by
  obtain ⟨hpos,hcount⟩ := claimFirst_some hfirst
  have hleft : claims.count a<things.count a := by
    have h1 := h.claimed a
    have h2 := h.whole a
    omega
  refine ⟨hleft,fun b => ?_,fun b => ?_⟩
  · have h1 := h.claimed b
    rw [(hcount b).2,List.count_append,List.count_singleton]
    by_cases hb : b = a
    · rw [hb] at h1 ⊢
      simp only [beq_self_eq_true,if_true]
      omega
    · rw [if_neg hb,if_neg (by simpa using fun h => hb h.symm)]
      omega
  · have h2 := h.whole b
    rw [(hcount b).1,(hcount b).2]
    by_cases hb : b = a
    · rw [if_pos hb,if_pos hb]
      rw [hb] at h2 ⊢
      omega
    · rw [if_neg hb,if_neg hb]
      omega

lemma After.none (h : After things claims pool) (hnone : claimFirst pool = none) (a : α) :
    things.count a ≤ claims.count a := by
  have h1 := h.claimed a
  have h2 := h.whole a
  have h3 := claimFirst_none hnone a
  omega

/-- A claim of another name changes nothing. -/
lemma After.other (h : After things claims pool) (ha : a∉things) : After things (claims++[a]) pool := by
  refine ⟨fun b => ?_,h.whole⟩
  rw [h.claimed,List.count_append]
  by_cases hb : b = a
  · rw [hb,List.count_eq_zero_of_not_mem ha]
    omega
  · rw [List.count_singleton,if_neg (by simpa using fun h => hb h.symm),Nat.add_zero]

end Claim

end Claiming
end Tierflow
