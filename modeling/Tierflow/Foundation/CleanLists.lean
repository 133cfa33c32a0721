import Mathlib.Data.List.Nodup
import Mathlib.Tactic

/-! Lists that stand for sets and keep their order. Entries are cleaned first and some are dropped then; of equal ones
the first is kept. -/
namespace Tierflow
namespace CleanLists
variable {α : Type*}

/-- A list that normalizing leaves as it is. -/
structure Clean (clean : α → Option α) (l : List α) : Prop where
  nodup : l.Nodup
  fixed : ∀ a∈l, clean a = some a

lemma Clean.filter {clean : α → Option α} {l : List α} (h : Clean clean l) (p : α → Bool) :
    Clean clean (l.filter p) :=
  ⟨h.nodup.filter p,fun a ha => h.fixed a (List.mem_of_mem_filter ha)⟩

lemma Clean.append {clean : α → Option α} {l m : List α} (hl : Clean clean l) (hm : Clean clean m)
    (hdisj : ∀ a∈m, a∉l) : Clean clean (l++m) where
  nodup := List.nodup_append.mpr ⟨hl.nodup,hm.nodup,fun _ ha b hb h => hdisj b hb (h ▸ ha)⟩
  fixed a ha := (List.mem_append.mp ha).elim (hl.fixed a) (hm.fixed a)

variable [DecidableEq α]

section Definitions
variable (clean : α → Option α)

def normalize (l : List α) : List α := (l.filterMap clean).eraseDups

/-- What is new goes to the end. -/
def merge (base appended : List α) : List α :=
  (normalize clean appended).foldl (fun merged a => if a∈merged then merged else merged++[a]) (normalize clean base)

def subtract (base removed : List α) : List α := (normalize clean base).filter (fun a => a∉normalize clean removed)

def intersect (base allowed : List α) : List α := (normalize clean base).filter (fun a => a∈normalize clean allowed)

end Definitions

/-! ## Duplicates -/

lemma nodup_eraseDups : ∀ l : List α, l.eraseDups.Nodup
  | [] => List.nodup_nil
  | a::l => by
    have hlt := List.length_filter_le (fun b => !b == a) l
    rw [List.eraseDups_cons,List.nodup_cons,List.mem_eraseDups]
    exact ⟨by simp,nodup_eraseDups (l.filter (fun b => !b == a))⟩
termination_by l => l.length
decreasing_by exact Nat.lt_succ_of_le hlt

lemma eraseDups_of_nodup {l : List α} (h : l.Nodup) : l.eraseDups = l := by
  induction l with
  | nil => rfl
  | cons a l ih =>
    obtain ⟨ha,hl⟩ := List.nodup_cons.mp h
    have hkeep : l.filter (fun b => !b == a) = l := by
      rw [List.filter_eq_self]
      intro b hb
      have hba : b≠a := fun h => ha (h ▸ hb)
      simpa using hba
    rw [List.eraseDups_cons,hkeep,ih hl]

section Laws
variable {clean : α → Option α} {l m : List α} {a : α}

lemma normalize_of_clean (h : Clean clean l) : normalize clean l = l := by
  have hmap : l.filterMap clean = l := by
    rw [List.filterMap_congr h.fixed,List.filterMap_some]
  rw [normalize,hmap,eraseDups_of_nodup h.nodup]

lemma mem_normalize : a∈normalize clean l ↔ ∃ b∈l, clean b = some a := by
  rw [normalize,List.mem_eraseDups,List.mem_filterMap]

lemma mem_normalize_of_fixed (h : ∀ b∈l, clean b = some b) : a∈normalize clean l ↔ a∈l := by
  rw [mem_normalize]
  constructor
  · rintro ⟨b,hb,hba⟩
    rwa [←Option.some.inj ((h b hb).symm.trans hba)]
  · exact fun ha => ⟨a,ha,h a ha⟩

variable (hclean : ∀ a b, clean a = some b → clean b = some b)
include hclean

lemma clean_normalize (l : List α) : Clean clean (normalize clean l) where
  nodup := nodup_eraseDups _
  fixed a ha := by
    obtain ⟨b,-,hb⟩ := mem_normalize.mp ha
    exact hclean b a hb

lemma normalize_idem (l : List α) : normalize clean (normalize clean l) = normalize clean l :=
  normalize_of_clean (clean_normalize hclean l)

omit hclean in
lemma foldl_append_new (h : m.Nodup) (l : List α) :
    m.foldl (fun merged a => if a∈merged then merged else merged++[a]) l = l++m.filter (fun a => a∉l) := by
  induction m generalizing l with
  | nil => simp
  | cons a m ih =>
    obtain ⟨ha,hm⟩ := List.nodup_cons.mp h
    rw [List.foldl_cons,ih hm]
    by_cases hal : a∈l
    · rw [if_pos hal,List.filter_cons_of_neg (by simpa using hal)]
    · rw [if_neg hal,List.filter_cons_of_pos (by simpa using hal),List.append_assoc,List.singleton_append]
      refine congrArg (fun t => l++a::t) (List.filter_congr fun b hb => ?_)
      have hba : b≠a := fun h => ha (h ▸ hb)
      simp [hba]

theorem merge_eq (l m : List α) :
    merge clean l m = normalize clean l++(normalize clean m).filter (fun a => a∉normalize clean l) :=
  foldl_append_new (clean_normalize hclean m).nodup _

lemma clean_merge (l m : List α) : Clean clean (merge clean l m) := by
  rw [merge_eq hclean]
  exact (clean_normalize hclean l).append ((clean_normalize hclean m).filter _)
    (fun a ha => of_decide_eq_true (List.mem_filter.mp ha).2)

lemma mem_merge : a∈merge clean l m ↔ a∈normalize clean l ∨ a∈normalize clean m := by
  rw [merge_eq hclean,List.mem_append,List.mem_filter]
  by_cases ha : a∈normalize clean l <;> simp [ha]

lemma clean_subtract (l m : List α) : Clean clean (subtract clean l m) := (clean_normalize hclean l).filter _

lemma clean_intersect (l m : List α) : Clean clean (intersect clean l m) := (clean_normalize hclean l).filter _

omit hclean in
lemma mem_subtract : a∈subtract clean l m ↔ a∈normalize clean l ∧ a∉normalize clean m := by
  rw [subtract,List.mem_filter,decide_eq_true_eq]

omit hclean in
lemma mem_intersect : a∈intersect clean l m ↔ a∈normalize clean l ∧ a∈normalize clean m := by
  rw [intersect,List.mem_filter,decide_eq_true_eq]

end Laws

end CleanLists
end Tierflow
