import Mathlib.Algebra.Order.Group.Defs
import Mathlib.Data.List.DropRight
import Mathlib.Data.List.Perm.Basic
import Mathlib.Tactic

/-! Moments in a sliding window. A list of moments covers another one beyond a horizon if, wherever one starts
to count after the horizon, it has at least as many. -/
namespace Tierflow
namespace SlidingWindow

section
variable {T : Type*} [LinearOrder T]

/-- How many moments are later than `d`. -/
def after (d : T) (l : List T) : ℕ := l.countP (fun t => d<t)

/-- Beyond the horizon the first list has no more moments than the second. -/
def Covered (horizon : T) (l k : List T) : Prop := ∀ d, horizon≤d → after d l≤after d k

variable {d horizon : T} {l l' k k' : List T}

lemma after_le_length (d : T) (l : List T) : after d l≤l.length := List.countP_le_length

lemma after_cons (d t : T) (l : List T) : after d (t::l) = after d l+if d<t then 1 else 0 := by
  unfold after
  simp [List.countP_cons]

lemma after_append (d : T) (l k : List T) : after d (l++k) = after d l+after d k := List.countP_append

lemma after_perm (h : l.Perm k) : after d l = after d k := h.countP_eq _

lemma after_eq_zero (h : ∀ t∈l, t≤d) : after d l = 0 := by
  apply List.countP_eq_zero.mpr
  intro t ht
  simpa using h t ht

lemma after_eq_length (h : ∀ t∈l, d<t) : after d l = l.length := by
  apply List.countP_eq_length.mpr
  intro t ht
  simpa using h t ht

lemma Covered.refl (horizon : T) (l : List T) : Covered horizon l l := fun _ _ => le_rfl

/-- A later horizon leaves fewer moments to cover. -/
lemma Covered.later {horizon' : T} (h : Covered horizon l k) (hle : horizon≤horizon') : Covered horizon' l k :=
  fun d hd => h d (hle.trans hd)

lemma Covered.cons (h : Covered horizon l k) (t : T) : Covered horizon (t::l) (t::k) := by
  intro d hd
  rw [after_cons,after_cons]
  have hle := h d hd
  omega

/-- Lists that agree beyond the horizon cover the same. -/
lemma Covered.trans_eq (h : Covered horizon l k) (heq : ∀ d, horizon≤d → after d k' = after d k) :
    Covered horizon l k' := fun d hd => (h d hd).trans (heq d hd).ge

lemma Covered.eq_trans (h : Covered horizon l k) (heq : ∀ d, horizon≤d → after d l' = after d l) :
    Covered horizon l' k := fun d hd => (heq d hd).le.trans (h d hd)

/-- Taking a moment out of the covered list and another one out of the covering list, if the latter counts only
where the former does. -/
lemma Covered.erase {t e : T} (h : Covered horizon l k) (hl : l.Perm (t::l')) (hk : k = e::k')
    (hle : e≤t ∨ e≤horizon) : Covered horizon l' k' := by
  intro d hd
  have hcov := h d hd
  rw [after_perm hl,hk,after_cons,after_cons] at hcov
  split_ifs at hcov with h1 h2 h2
  · omega
  · omega
  · rcases hle with hle | hle
    · exact absurd (h2.trans_le hle) h1
    · exact absurd (h2.trans_le hle) hd.not_gt
  · omega

/-- The moments that `rdropWhile` takes away from the end are not beyond the horizon. -/
lemma after_rdropWhile (l : List T) (hd : horizon≤d) : after d (l.rdropWhile (fun t => t≤horizon)) = after d l := by
  have hsplit := List.rdropWhile_append_rtakeWhile (p := fun t => decide (t≤horizon)) (l := l)
  have hzero : after d (l.rtakeWhile (fun t => t≤horizon)) = 0 := by
    apply after_eq_zero
    intro t ht
    have hle := List.mem_rtakeWhile_imp ht
    exact (of_decide_eq_true hle).trans hd
  rw [←add_zero (after d (l.rdropWhile _)),←hzero,←after_append,hsplit]

/-- Of a list with the latest moment first only what is beyond the horizon remains. -/
lemma lt_of_mem_rdropWhile {t : T} (hl : l.Pairwise (·≥·)) (ht : t∈l.rdropWhile (fun t => t≤horizon)) :
    horizon<t := by
  have hprefix : (l.rdropWhile (fun t => t≤horizon)).Sublist l := (List.rdropWhile_prefix _ l).sublist
  have hne := List.ne_nil_of_mem ht
  have hlast := List.rdropWhile_last_not (fun t => decide (t≤horizon)) l hne
  rw [decide_eq_true_eq,not_le] at hlast
  have hpair := hl.sublist hprefix
  rw [←List.dropLast_append_getLast hne,List.pairwise_append] at hpair
  rw [←List.dropLast_append_getLast hne,List.mem_append,List.mem_singleton] at ht
  rcases ht with ht | rfl
  · exact hlast.trans_le (hpair.2.2 t ht _ (List.mem_singleton_self _))
  · exact hlast

end

section
variable {T : Type*} [AddCommGroup T] [LinearOrder T]

/-- How many moments lie in the window of the given length that begins at `x`. -/
def within (W x : T) (l : List T) : ℕ := l.countP (fun t => x≤t ∧ t<x+W)

variable {W x now : T} {l k : List T}

lemma within_perm (h : l.Perm k) : within W x l = within W x k := h.countP_eq _

lemma within_append (W x : T) (l k : List T) : within W x (l++k) = within W x l+within W x k := List.countP_append

lemma within_cons (W x t : T) (l : List T) :
    within W x (t::l) = within W x l+if x≤t ∧ t<x+W then 1 else 0 := by
  unfold within
  simp [List.countP_cons]

variable [IsOrderedAddMonoid T]

/-- A window that contains the present lies beyond the horizon of the present. -/
lemma within_le_after (h : now<x+W) (l : List T) : within W x l≤after (now-W) l := by
  apply List.countP_mono_left
  intro t _ ht
  have hmem : x≤t ∧ t<x+W := by simpa using ht
  simpa using (sub_lt_iff_lt_add.mpr h).trans_le hmem.1

/-- A limit on every window is kept by a new moment, if fewer lie between the present and its horizon. -/
lemma within_cons_le {m : ℕ} (h : ∀ x, within W x l ≤ m) (hnew : after (now-W) l < m) (x : T) :
    within W x (now::l) ≤ m := by
  rw [within_cons]
  split_ifs with hx
  · have hle := within_le_after hx.2 l
    omega
  · exact h x

end

end SlidingWindow
end Tierflow
