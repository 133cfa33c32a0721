import Mathlib.Algebra.Order.BigOperators.Group.List
import Mathlib.Data.List.Nodup
import Mathlib.Tactic

/-! Ledgers of open accounts. A ledger holds at most one account for each key; an account is
opened with an amount, adjusted while it is open, and closed. -/
namespace Tierflow

structure Ledger (κ : Type*) where
  entries : List (κ × ℤ)
  keys_nodup : (entries.map Prod.fst).Nodup

namespace Ledger
variable {κ : Type*}

def empty : Ledger κ := ⟨[],by simp⟩

def total (l : Ledger κ) : ℤ := (l.entries.map Prod.snd).sum

/-- No account has run below zero. -/
def Nonneg (l : Ledger κ) : Prop := ∀ e∈l.entries, 0≤e.2

instance (l : Ledger κ) : Decidable l.Nonneg := by unfold Nonneg; infer_instance

@[simp] lemma total_empty : (empty : Ledger κ).total = 0 := rfl
lemma nonneg_empty : (empty : Ledger κ).Nonneg := by simp [Nonneg,empty]

variable [DecidableEq κ]

/-- The amount of the account of a key, if one is open. -/
def owed (l : Ledger κ) (k : κ) : Option ℤ := (l.entries.find? (fun e => e.1=k)).map Prod.snd

/-- Open an account; a key whose account is open keeps it. -/
def charge (l : Ledger κ) (k : κ) (a : ℤ) : Ledger κ :=
  if h : k∈l.entries.map Prod.fst then l
  else ⟨(k,a)::l.entries,by simpa using ⟨by simpa using h,l.keys_nodup⟩⟩

def adjust (l : Ledger κ) (k : κ) (d : ℤ) : Ledger κ where
  entries := l.entries.map (fun e => if e.1=k then (e.1,e.2+d) else e)
  keys_nodup := by
    have h : (l.entries.map (fun e => if e.1=k then (e.1,e.2+d) else e)).map Prod.fst =
        l.entries.map Prod.fst := by
      rw [List.map_map]
      apply List.map_congr_left
      intro e _
      by_cases he : e.1=k <;> simp [he]
    rw [h]
    exact l.keys_nodup

def close (l : Ledger κ) (k : κ) : Ledger κ where
  entries := l.entries.filter (fun e => e.1≠k)
  keys_nodup := l.keys_nodup.sublist (List.filter_sublist.map _)

@[simp] lemma owed_empty (k : κ) : (empty : Ledger κ).owed k = none := rfl

lemma owed_eq_none_iff {l : Ledger κ} {k : κ} : l.owed k = none ↔ ∀ e∈l.entries, e.1≠k := by
  simp [owed,List.find?_eq_none]

lemma mem_of_owed {l : Ledger κ} {k : κ} {n : ℤ} (h : l.owed k = some n) : (k,n)∈l.entries := by
  obtain ⟨⟨j,m⟩,hf,rfl⟩ := Option.map_eq_some_iff.mp h
  have hk : j=k := by simpa using List.find?_some hf
  subst j
  exact List.mem_of_find?_eq_some hf

lemma Nonneg.owed {l : Ledger κ} (h : l.Nonneg) {k : κ} {n : ℤ} (hn : l.owed k = some n) : 0≤n :=
  h (k,n) (mem_of_owed hn)

lemma Nonneg.le_total {l : Ledger κ} (h : l.Nonneg) {k : κ} {n : ℤ} (hn : l.owed k = some n) : n≤l.total := by
  apply List.single_le_sum
  · intro x hx
    obtain ⟨e,he,rfl⟩ := List.mem_map.mp hx
    exact h e he
  · exact List.mem_map.mpr ⟨(k,n),mem_of_owed hn,rfl⟩

lemma mem_charge {l : Ledger κ} {k : κ} {a : ℤ} {e : κ × ℤ} (h : e∈(l.charge k a).entries) :
    e=(k,a) ∨ e∈l.entries := by
  unfold charge at h
  split_ifs at h
  · exact .inr h
  · exact List.mem_cons.mp h

@[simp] lemma total_charge {l : Ledger κ} {k : κ} (a : ℤ) (h : l.owed k = none) :
    (l.charge k a).total = l.total+a := by
  have hk : k∉l.entries.map Prod.fst := by
    intro hm
    obtain ⟨e,he,rfl⟩ := List.mem_map.mp hm
    exact owed_eq_none_iff.mp h e he rfl
  rw [charge,dif_neg hk]
  simp [total,add_comm]

lemma Nonneg.charge {l : Ledger κ} (h : l.Nonneg) {k : κ} {a : ℤ} (ha : 0≤a) : (l.charge k a).Nonneg := by
  intro e he
  rcases mem_charge he with rfl | he
  · exact ha
  · exact h e he

/-- What holds of the entries of one account and of all others, with at most one account a key. -/
lemma entries_split {l : Ledger κ} {k : κ} {n : ℤ} (h : l.owed k = some n) :
    ∃ xs ys, l.entries = xs++(k,n)::ys ∧ (∀ e∈xs, e.1≠k) ∧ ∀ e∈ys, e.1≠k := by
  obtain ⟨xs,ys,hl⟩ := List.append_of_mem (mem_of_owed h)
  have hn := l.keys_nodup
  rw [hl,List.map_append,List.map_cons,List.nodup_middle,List.nodup_cons] at hn
  refine ⟨xs,ys,hl,?_,?_⟩
  · intro e he hk
    exact hn.1 (List.mem_append_left _ (List.mem_map.mpr ⟨e,he,hk⟩))
  · intro e he hk
    exact hn.1 (List.mem_append_right _ (List.mem_map.mpr ⟨e,he,hk⟩))

lemma map_adjust_of_ne {es : List (κ × ℤ)} {k : κ} (h : ∀ e∈es, e.1≠k) (d : ℤ) :
    es.map (fun e => if e.1=k then (e.1,e.2+d) else e) = es := by
  induction es with
  | nil => rfl
  | cons e es ih =>
    rw [List.map_cons,if_neg (h e (by simp)),ih (fun e he => h e (by simp [he]))]

theorem total_adjust {l : Ledger κ} {k : κ} {n : ℤ} (h : l.owed k = some n) (d : ℤ) :
    (l.adjust k d).total = l.total+d := by
  obtain ⟨xs,ys,hl,hx,hy⟩ := entries_split h
  simp only [total,adjust,hl,List.map_append,List.map_cons,if_true,map_adjust_of_ne hx,map_adjust_of_ne hy,
    List.sum_append,List.sum_cons]
  ring

lemma adjust_of_owed_none {l : Ledger κ} {k : κ} (h : l.owed k = none) (d : ℤ) : l.adjust k d = l := by
  cases l with
  | mk es hes =>
    simp only [adjust,mk.injEq]
    exact map_adjust_of_ne (owed_eq_none_iff.mp h) d

lemma mem_adjust {l : Ledger κ} {k : κ} {d : ℤ} {e : κ × ℤ} (h : e∈(l.adjust k d).entries) :
    ∃ f∈l.entries, f.1=e.1 := by
  obtain ⟨f,hf,rfl⟩ := List.mem_map.mp h
  refine ⟨f,hf,?_⟩
  split_ifs <;> rfl

/-- An adjustment keeps all accounts at or above zero when it keeps its own account there. -/
theorem nonneg_adjust_iff {l : Ledger κ} (hl : l.Nonneg) {k : κ} {n : ℤ} (h : l.owed k = some n) (d : ℤ) :
    (l.adjust k d).Nonneg ↔ 0≤n+d := by
  constructor
  · intro ha
    have hm : (k,n+d)∈(l.adjust k d).entries :=
      List.mem_map.mpr ⟨(k,n),mem_of_owed h,by simp⟩
    exact ha _ hm
  · intro hn e he
    obtain ⟨⟨j,m⟩,hm,rfl⟩ := List.mem_map.mp he
    obtain ⟨xs,ys,hs,hx,hy⟩ := entries_split h
    by_cases hj : j=k
    · subst j
      rw [hs,List.mem_append,List.mem_cons] at hm
      rcases hm with hm | hm | hm
      · exact absurd rfl (hx _ hm)
      · rw [Prod.mk.injEq] at hm
        simpa [hm.2] using hn
      · exact absurd rfl (hy _ hm)
    · simpa [hj] using hl (j,m) hm

lemma entries_close (l : Ledger κ) (k : κ) : (l.close k).entries = l.entries.filter (fun e => e.1≠k) := rfl

lemma filter_close_of_ne {es : List (κ × ℤ)} {k : κ} (h : ∀ e∈es, e.1≠k) :
    es.filter (fun e => e.1≠k) = es := by
  rw [List.filter_eq_self]
  intro e he
  simpa using h e he

/-- Closing an account takes its amount off the total. -/
theorem total_close (l : Ledger κ) (k : κ) : (l.close k).total = l.total-(l.owed k).getD 0 := by
  cases h : l.owed k with
  | none =>
    rw [total,entries_close,filter_close_of_ne (owed_eq_none_iff.mp h)]
    exact (sub_zero _).symm
  | some n =>
    obtain ⟨xs,ys,hl,hx,hy⟩ := entries_split h
    have hk : ((k,n)::ys).filter (fun e => e.1≠k) = ys := by
      rw [List.filter_cons_of_neg (by simp),filter_close_of_ne hy]
    rw [total,total,entries_close,hl,List.filter_append,filter_close_of_ne hx,hk]
    simp only [List.map_append,List.map_cons,List.sum_append,List.sum_cons,Option.getD_some]
    ring

lemma Nonneg.close {l : Ledger κ} (h : l.Nonneg) (k : κ) : (l.close k).Nonneg :=
  fun e he => h e (List.mem_filter.mp he).1

end Ledger
end Tierflow
