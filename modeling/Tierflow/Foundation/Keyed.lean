import Mathlib.Data.List.Nodup
import Mathlib.Tactic

/-! Tables whose rows bring their keys along. No two rows have one key, so that a table is a partial map
from keys to values, and what a statement does to many rows at once is read off the map. -/
namespace Tierflow

structure Keyed (κ β : Type*) where
  rows : List (κ × β)
  nodup : (rows.map Prod.fst).Nodup

namespace Keyed
variable {κ β : Type*}

def empty : Keyed κ β := ⟨[],List.nodup_nil⟩

instance : Inhabited (Keyed κ β) := ⟨empty⟩

def deleteWhere (t : Keyed κ β) (p : κ × β → Bool) : Keyed κ β where
  rows := t.rows.filter (fun r => !p r)
  nodup := t.nodup.sublist (List.filter_sublist.map Prod.fst)

/-- Rewrite every row in place. -/
def mapRows (t : Keyed κ β) (f : κ → β → β) : Keyed κ β where
  rows := t.rows.map (fun r => (r.1,f r.1 r.2))
  nodup := by simpa [List.map_map,Function.comp_def] using t.nodup

variable [BEq κ] [LawfulBEq κ]

def find? (t : Keyed κ β) (k : κ) : Option β := t.rows.lookup k

/-- A row whose key is taken already is not written. -/
def insertNew (t : Keyed κ β) (r : κ × β) : Keyed κ β :=
  if h : r.1∈t.rows.map Prod.fst then t
  else ⟨t.rows++[r],by
    rw [List.map_append,List.nodup_append]
    refine ⟨t.nodup,List.nodup_singleton _,?_⟩
    intro k hk j hj hkj
    rw [List.map_singleton,List.mem_singleton] at hj
    exact h (hj ▸ hkj ▸ hk)⟩

def erase (t : Keyed κ β) (k : κ) : Keyed κ β := t.deleteWhere (fun r => r.1 == k)

/-- The row of a key is written anew. -/
def put (t : Keyed κ β) (k : κ) (b : β) : Keyed κ β := (t.erase k).insertNew (k,b)

def insertAll (t : Keyed κ β) (l : List (κ × β)) : Keyed κ β := l.foldl insertNew t

/-! ## Lookups -/

lemma lookup_eq_some_iff {l : List (κ × β)} (hl : (l.map Prod.fst).Nodup) (k : κ) (b : β) :
    l.lookup k = some b ↔ (k,b)∈l := by
  induction l with
  | nil => simp
  | cons r l ih =>
    obtain ⟨j,c⟩ := r
    obtain ⟨hj,hl⟩ := List.nodup_cons.mp hl
    rw [List.lookup_cons,List.mem_cons]
    by_cases hk : k = j
    · subst k
      simp only [beq_self_eq_true,Option.some.injEq,Prod.mk.injEq,true_and]
      constructor
      · exact fun h => .inl h.symm
      · rintro (h | h)
        · exact h.symm
        · exact absurd (List.mem_map_of_mem h) hj
    · simp only [beq_false_of_ne hk,ih hl,Prod.mk.injEq,hk,false_and,false_or]

lemma lookup_eq_none_iff {l : List (κ × β)} {k : κ} : l.lookup k = none ↔ k∉l.map Prod.fst := by
  induction l with
  | nil => simp
  | cons r l ih =>
    rw [List.lookup_cons,List.map_cons,List.mem_cons,not_or]
    by_cases hk : k = r.1
    · simp [hk]
    · simp only [beq_false_of_ne hk,ih,hk,not_false_eq_true,true_and]

lemma lookup_append (l m : List (κ × β)) (k : κ) : (l++m).lookup k = (l.lookup k).or (m.lookup k) := by
  induction l with
  | nil => rfl
  | cons r l ih =>
    rw [List.cons_append,List.lookup_cons,List.lookup_cons,ih]
    cases k == r.1 <;> rfl

/-- Rows that are listed with one value each. -/
lemma lookup_map_const {α : Type*} [BEq α] [LawfulBEq α] {f : α → κ} (hf : Function.Injective f)
    (l : List α) (b : β) (a : α) : (l.map (fun x => (f x,b))).lookup (f a) = if a∈l then some b else none := by
  induction l with
  | nil => rfl
  | cons x l ih =>
    rw [List.map_cons,List.lookup_cons,ih]
    by_cases ha : a = x
    · simp [ha]
    · have hne : (f a == f x) = false := beq_false_of_ne (fun h => ha (hf h))
      simp [hne,ha]

lemma find?_eq_some_iff (t : Keyed κ β) (k : κ) (b : β) : t.find? k = some b ↔ (k,b)∈t.rows :=
  lookup_eq_some_iff t.nodup k b

@[simp] lemma find?_empty (k : κ) : (empty : Keyed κ β).find? k = none := rfl

lemma nodup_filter (t : Keyed κ β) (p : κ × β → Bool) : ((t.rows.filter p).map Prod.fst).Nodup :=
  t.nodup.sublist (List.filter_sublist.map Prod.fst)

lemma lookup_filter (t : Keyed κ β) (p : κ × β → Bool) (k : κ) :
    (t.rows.filter p).lookup k = (t.find? k).filter (fun b => p (k,b)) := by
  ext b
  rw [lookup_eq_some_iff (t.nodup_filter p),Option.filter_eq_some_iff,find?_eq_some_iff]
  exact List.mem_filter

lemma find?_deleteWhere (t : Keyed κ β) (p : κ × β → Bool) (k : κ) :
    (t.deleteWhere p).find? k = (t.find? k).filter (fun b => !p (k,b)) :=
  t.lookup_filter (fun r => !p r) k

lemma lookup_mapValues (l : List (κ × β)) (f : κ → β → β) (k : κ) :
    (l.map (fun r => (r.1,f r.1 r.2))).lookup k = (l.lookup k).map (f k) := by
  induction l with
  | nil => rfl
  | cons r l ih =>
    rw [List.map_cons,List.lookup_cons,List.lookup_cons,ih]
    by_cases hk : k = r.1
    · subst hk
      rw [beq_self_eq_true]
      rfl
    · rw [beq_false_of_ne hk]

@[simp] lemma find?_mapRows (t : Keyed κ β) (f : κ → β → β) (k : κ) :
    (t.mapRows f).find? k = (t.find? k).map (f k) := lookup_mapValues t.rows f k

lemma find?_insertNew (t : Keyed κ β) (r : κ × β) (k : κ) :
    (t.insertNew r).find? k = (t.find? k).or (List.lookup k [r]) := by
  unfold insertNew
  split_ifs with hmem
  · rw [List.lookup_cons,List.lookup_nil]
    by_cases hk : k = r.1
    · subst hk
      cases h : t.find? r.1 with
      | none => exact absurd hmem (lookup_eq_none_iff.mp h)
      | some b => rfl
    · rw [beq_false_of_ne hk]
      exact Option.or_none.symm
  · exact lookup_append t.rows [r] k

lemma find?_erase (t : Keyed κ β) (k j : κ) : (t.erase k).find? j = if j == k then none else t.find? j := by
  rw [erase,find?_deleteWhere]
  dsimp only
  cases j == k with
  | false => cases t.find? j <;> rfl
  | true => simp

lemma find?_put (t : Keyed κ β) (k : κ) (b : β) (j : κ) :
    (t.put k b).find? j = if j == k then some b else t.find? j := by
  rw [put,find?_insertNew,find?_erase,List.lookup_cons,List.lookup_nil]
  cases j == k <;> simp

@[simp] lemma find?_put_self (t : Keyed κ β) (k : κ) (b : β) : (t.put k b).find? k = some b := by
  simp [find?_put]

lemma find?_put_of_ne {k j : κ} (t : Keyed κ β) (b : β) (h : j≠k) : (t.put k b).find? j = t.find? j := by
  rw [find?_put,beq_false_of_ne h]
  rfl

/-- The rows that were there first stay. -/
lemma find?_insertAll (t : Keyed κ β) (l : List (κ × β)) (k : κ) :
    (t.insertAll l).find? k = (t.find? k).or (l.lookup k) := by
  induction l generalizing t with
  | nil => exact Option.or_none.symm
  | cons r l ih =>
    change ((t.insertNew r).insertAll l).find? k = _
    rw [ih,find?_insertNew,Option.or_assoc,←lookup_append]
    rfl

/-! ## What is written anew -/

lemma rows_put (t : Keyed κ β) (k : κ) (b : β) :
    (t.put k b).rows = t.rows.filter (fun r => !(r.1 == k))++[(k,b)] := by
  have h : k∉(t.erase k).rows.map Prod.fst := by
    rw [←lookup_eq_none_iff]
    have h := t.find?_erase k k
    rwa [beq_self_eq_true] at h
  change ((t.erase k).insertNew (k,b)).rows = _
  rw [insertNew,dif_neg h]
  rfl

lemma sum_filter_lookup (f : κ × β → ℤ) {l : List (κ × β)} (hl : (l.map Prod.fst).Nodup) (k : κ) :
    ((l.filter (fun r => !(r.1 == k))).map f).sum+(l.lookup k).elim 0 (fun b => f (k,b)) = (l.map f).sum := by
  induction l with
  | nil => rfl
  | cons r l ih =>
    obtain ⟨j,c⟩ := r
    obtain ⟨hj,hl⟩ := List.nodup_cons.mp hl
    rw [List.lookup_cons,List.map_cons,List.sum_cons,←ih hl]
    by_cases hk : k = j
    · subst k
      have hnone : l.lookup j = none := lookup_eq_none_iff.mpr hj
      simp [hnone,add_comm]
    · simp [beq_false_of_ne hk,beq_false_of_ne (Ne.symm hk),add_assoc]

/-- A sum over the rows changes by what is written less what stood there. -/
lemma sum_put (f : κ × β → ℤ) (t : Keyed κ β) (k : κ) (b : β) :
    ((t.put k b).rows.map f).sum+(t.find? k).elim 0 (fun b => f (k,b)) = (t.rows.map f).sum+f (k,b) := by
  rw [rows_put,List.map_append,List.sum_append,←sum_filter_lookup f t.nodup k]
  simp only [List.map_singleton,List.sum_singleton]
  exact add_right_comm _ _ _

end Keyed
end Tierflow
