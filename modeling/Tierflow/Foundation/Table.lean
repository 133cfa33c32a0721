import Mathlib.Algebra.BigOperators.Group.List.Basic
import Mathlib.Algebra.Order.BigOperators.Group.List
import Mathlib.Data.List.Basic
import Mathlib.Tactic

/-! Tables with an auto-increment primary key. Rows are kept in key order, and the
key discipline is part of the type, so that no operation can duplicate or reuse a key. -/
namespace Tierflow

/-- Rows in ascending key order, together with the key of the next inserted row. -/
structure Table (α : Type*) where
  next : ℕ
  rows : List (ℕ × α)
  ascending : rows.Pairwise (fun r s => r.1 < s.1)
  bounded : ∀ r∈rows, 0 < r.1 ∧ r.1<next
  next_pos : 0<next

namespace Table
variable {α : Type*}

def empty : Table α := ⟨1,[],List.Pairwise.nil,by simp,Nat.one_pos⟩

instance : Inhabited (Table α) := ⟨empty⟩

/-- The row stored under a key. -/
def find? (t : Table α) (k : ℕ) : Option α := (t.rows.find? (fun r => r.1==k)).map Prod.snd

/-- The first row, in key order, that satisfies a condition. -/
def first? (t : Table α) (p : ℕ × α → Bool) : Option (ℕ × α) := t.rows.find? p

def select (t : Table α) (p : ℕ × α → Bool) : List (ℕ × α) := t.rows.filter p

def count (t : Table α) (p : ℕ × α → Bool) : ℕ := (t.select p).length

/-- A new row receives the key `t.next`. -/
def insert (t : Table α) (a : α) : Table α where
  next := t.next+1
  rows := t.rows ++ [(t.next,a)]
  ascending := by
    rw [List.pairwise_append]
    refine ⟨t.ascending,List.pairwise_singleton _ _,?_⟩
    intro r hr s hs
    obtain rfl := List.mem_singleton.mp hs
    exact (t.bounded r hr).2
  bounded := by
    intro r hr
    rcases List.mem_append.mp hr with h | h
    · exact ⟨(t.bounded r h).1,Nat.lt_succ_of_lt (t.bounded r h).2⟩
    · obtain rfl := List.mem_singleton.mp h
      exact ⟨t.next_pos,Nat.lt_succ_self _⟩
  next_pos := Nat.succ_pos _

/-- Rewrite every row in place. -/
def mapRows (t : Table α) (f : ℕ → α → α) : Table α where
  next := t.next
  rows := t.rows.map (fun r => (r.1,f r.1 r.2))
  ascending := by simpa [List.pairwise_map] using t.ascending
  bounded := by
    intro r hr
    obtain ⟨s,hs,rfl⟩ := List.mem_map.mp hr
    exact t.bounded s hs
  next_pos := t.next_pos

/-- Overwrite the row stored under one key. -/
def set (t : Table α) (k : ℕ) (a : α) : Table α := t.mapRows (fun j b => if j=k then a else b)

def updateWhere (t : Table α) (p : ℕ × α → Bool) (f : α → α) : Table α :=
  t.mapRows (fun j b => if p (j,b) then f b else b)

def delete (t : Table α) (k : ℕ) : Table α where
  next := t.next
  rows := t.rows.filter (fun r => r.1 != k)
  ascending := t.ascending.filter _
  bounded := fun r hr => t.bounded r (List.mem_filter.mp hr).1
  next_pos := t.next_pos

/-- Delete all rows that satisfy a condition. -/
def deleteWhere (t : Table α) (p : ℕ × α → Bool) : Table α where
  next := t.next
  rows := t.rows.filter (fun r => !p r)
  ascending := t.ascending.filter _
  bounded := fun r hr => t.bounded r (List.mem_filter.mp hr).1
  next_pos := t.next_pos

@[simp] theorem next_insert (t : Table α) (a : α) : (t.insert a).next = t.next+1 := rfl
@[simp] theorem next_mapRows (t : Table α) (f : ℕ → α → α) : (t.mapRows f).next = t.next := rfl
@[simp] theorem next_set (t : Table α) (k : ℕ) (a : α) : (t.set k a).next = t.next := rfl
@[simp] theorem next_updateWhere (t : Table α) (p : ℕ × α → Bool) (f : α → α) :
    (t.updateWhere p f).next = t.next := rfl
@[simp] theorem next_delete (t : Table α) (k : ℕ) : (t.delete k).next = t.next := rfl
@[simp] theorem next_deleteWhere (t : Table α) (p : ℕ × α → Bool) : (t.deleteWhere p).next = t.next := rfl
@[simp] theorem find?_empty (k : ℕ) : (empty : Table α).find? k = none := rfl

lemma keys_nodup (t : Table α) : (t.rows.map Prod.fst).Nodup := by
  rw [List.Nodup,List.pairwise_map]
  exact t.ascending.imp (fun h => h.ne)

lemma select_keys_nodup (t : Table α) (p : ℕ × α → Bool) : ((t.select p).map Prod.fst).Nodup :=
  t.keys_nodup.sublist (List.filter_sublist.map _)

lemma row_unique (t : Table α) {r s : ℕ × α} (hr : r∈t.rows) (hs : s∈t.rows) (h : r.1=s.1) : r=s :=
  List.inj_on_of_nodup_map t.keys_nodup hr hs h

lemma find?_eq_some_iff (t : Table α) (k : ℕ) (a : α) : t.find? k = some a ↔ (k,a)∈t.rows := by
  constructor
  · intro h
    obtain ⟨⟨j,b⟩,hf,rfl⟩ := Option.map_eq_some_iff.mp h
    have hk : j=k := by simpa using List.find?_some hf
    subst j
    exact List.mem_of_find?_eq_some hf
  · intro h
    have hs : (t.rows.find? (fun r => r.1==k)).isSome := by
      rw [List.find?_isSome]
      exact ⟨(k,a),h,by simp⟩
    obtain ⟨r,hf⟩ := Option.isSome_iff_exists.mp hs
    have hk : r.1=k := by simpa using List.find?_some hf
    have he : r=(k,a) := t.row_unique (List.mem_of_find?_eq_some hf) h hk
    unfold find?
    rw [hf,he]
    rfl

lemma mem_rows_iff (t : Table α) (r : ℕ × α) : r∈t.rows ↔ t.find? r.1 = some r.2 :=
  (find?_eq_some_iff t r.1 r.2).symm

lemma find?_lt {t : Table α} {k : ℕ} {a : α} (h : t.find? k = some a) : 0<k ∧ k<t.next :=
  t.bounded (k,a) ((find?_eq_some_iff t k a).mp h)

@[simp] lemma find?_next (t : Table α) : t.find? t.next = none := by
  cases h : t.find? t.next with
  | none => rfl
  | some a => exact absurd (find?_lt h).2 (lt_irrefl _)

@[simp] lemma find?_zero (t : Table α) : t.find? 0 = none := by
  cases h : t.find? 0 with
  | none => rfl
  | some a => exact absurd (find?_lt h).1 (lt_irrefl _)

/-- Two tables whose rows agree key by key answer every lookup alike. -/
lemma find?_of_rows {t u : Table α} {k j : ℕ} (h : ∀ a, (k,a)∈t.rows ↔ (j,a)∈u.rows) :
    t.find? k = u.find? j := by
  apply Option.ext
  intro a
  rw [find?_eq_some_iff,find?_eq_some_iff]
  exact h a

theorem find?_insert (t : Table α) (a : α) (k : ℕ) :
    (t.insert a).find? k = if k=t.next then some a else t.find? k := by
  split_ifs with h
  · rw [find?_eq_some_iff,h]
    simp [insert]
  · apply find?_of_rows
    intro b
    simp [insert,h]

@[simp] theorem find?_insert_self (t : Table α) (a : α) : (t.insert a).find? t.next = some a := by
  rw [find?_insert,if_pos rfl]

theorem find?_insert_of_ne (t : Table α) (a : α) {k : ℕ} (h : k≠t.next) :
    (t.insert a).find? k = t.find? k := by rw [find?_insert,if_neg h]

/-- A stored row keeps its key and contents when another row is inserted. -/
theorem find?_insert_of_some {t : Table α} {k : ℕ} {b : α} (a : α) (h : t.find? k = some b) :
    (t.insert a).find? k = some b := by
  rw [find?_insert_of_ne t a (find?_lt h).2.ne,h]

@[simp] theorem find?_mapRows (t : Table α) (f : ℕ → α → α) (k : ℕ) :
    (t.mapRows f).find? k = (t.find? k).map (f k) := by
  apply Option.ext
  intro b
  rw [find?_eq_some_iff,Option.map_eq_some_iff]
  simp only [mapRows,List.mem_map,Prod.mk.injEq,find?_eq_some_iff]
  constructor
  · rintro ⟨⟨j,a⟩,hm,rfl,rfl⟩
    exact ⟨a,hm,rfl⟩
  · rintro ⟨a,hm,rfl⟩
    exact ⟨(k,a),hm,rfl,rfl⟩

theorem find?_set (t : Table α) (k j : ℕ) (a : α) :
    (t.set k a).find? j = if j=k then (t.find? k).map (fun _ => a) else t.find? j := by
  unfold set
  rw [find?_mapRows]
  split_ifs with h
  · subst j
    simp
  · simp

theorem find?_set_self {t : Table α} {k : ℕ} {b : α} (a : α) (h : t.find? k = some b) :
    (t.set k a).find? k = some a := by
  rw [find?_set,if_pos rfl,h]
  rfl

theorem find?_set_of_ne (t : Table α) {k j : ℕ} (a : α) (h : j≠k) :
    (t.set k a).find? j = t.find? j := by rw [find?_set,if_neg h]

@[simp] theorem find?_updateWhere (t : Table α) (p : ℕ × α → Bool) (f : α → α) (k : ℕ) :
    (t.updateWhere p f).find? k = (t.find? k).map (fun a => if p (k,a) then f a else a) := by
  unfold updateWhere
  rw [find?_mapRows]

theorem find?_delete (t : Table α) (k j : ℕ) :
    (t.delete k).find? j = if j=k then none else t.find? j := by
  split_ifs with h
  · cases hf : (t.delete k).find? j with
    | none => rfl
    | some a =>
      have hm := (find?_eq_some_iff _ _ _).mp hf
      simp [delete,h] at hm
  · apply find?_of_rows
    intro a
    simp [delete,h]

theorem find?_deleteWhere_eq_some {t : Table α} {p : ℕ × α → Bool} {k : ℕ} {a : α} :
    (t.deleteWhere p).find? k = some a ↔ t.find? k = some a ∧ p (k,a) = false := by
  rw [find?_eq_some_iff,find?_eq_some_iff]
  simp [deleteWhere]

theorem mem_select {t : Table α} {p : ℕ × α → Bool} {r : ℕ × α} :
    r∈t.select p ↔ t.find? r.1 = some r.2 ∧ p r = true := by
  rw [select,List.mem_filter,mem_rows_iff]

theorem select_eq_nil_iff {t : Table α} {p : ℕ × α → Bool} :
    t.select p = [] ↔ ∀ k a, t.find? k = some a → p (k,a) = false := by
  rw [List.eq_nil_iff_forall_not_mem]
  constructor
  · intro h k a hk
    by_contra hp
    exact h (k,a) (mem_select.mpr ⟨hk,by simpa using hp⟩)
  · intro h r hr
    obtain ⟨hf,hp⟩ := mem_select.mp hr
    rw [h r.1 r.2 hf] at hp
    contradiction

theorem first?_some {t : Table α} {p : ℕ × α → Bool} {r : ℕ × α} (h : t.first? p = some r) :
    t.find? r.1 = some r.2 ∧ p r = true :=
  ⟨(mem_rows_iff t r).mp (List.mem_of_find?_eq_some h),List.find?_some h⟩

theorem first?_eq_none_iff {t : Table α} {p : ℕ × α → Bool} :
    t.first? p = none ↔ ∀ k a, t.find? k = some a → p (k,a) = false := by
  unfold first?
  rw [List.find?_eq_none]
  constructor
  · intro h k a hk
    simpa using h (k,a) ((find?_eq_some_iff t k a).mp hk)
  · intro h r hr
    simp [h r.1 r.2 ((mem_rows_iff t r).mp hr)]

theorem first?_insert (t : Table α) (a : α) (p : ℕ × α → Bool) :
    (t.insert a).first? p = (t.first? p).or (if p (t.next,a) then some (t.next,a) else none) := by
  simp [first?,insert,List.find?_append,List.find?_singleton]

/-- Overwriting a row does not change which row a condition finds, when the condition does not
tell the new contents from the old. -/
theorem first?_set {t : Table α} {k : ℕ} {a b : α} {p : ℕ × α → Bool} (hb : t.find? k = some b)
    (hp : p (k,a) = p (k,b)) :
    (t.set k a).first? p = (t.first? p).map (fun r => if r.1=k then (k,a) else r) := by
  have hrow : ∀ r∈t.rows, p (r.1,if r.1=k then a else r.2) = p r := by
    intro r hr
    by_cases hk : r.1=k
    · have hrb : r=(k,b) := t.row_unique hr ((find?_eq_some_iff t k b).mp hb) hk
      simp [hrb,hp]
    · simp [hk]
  have hmap : ∀ r : ℕ × α, (r.1,if r.1=k then a else r.2) = if r.1=k then (k,a) else r := by
    intro r
    by_cases hk : r.1=k <;> simp [hk]
  simp only [first?,set,mapRows,List.find?_map]
  congr 1
  · funext r
    exact hmap r
  · have hf : ∀ l : List (ℕ × α), (∀ r∈l, p (r.1,if r.1=k then a else r.2) = p r) →
        l.find? (p ∘ fun r => (r.1,if r.1=k then a else r.2)) = l.find? p := by
      intro l hl
      induction l with
      | nil => rfl
      | cons r l ih =>
        rw [List.find?_cons,List.find?_cons,Function.comp_apply,hl r (by simp),
          ih (fun s hs => hl s (by simp [hs]))]
    exact hf t.rows hrow

/-- No two rows agree in a column. -/
def Unique {β : Type*} (t : Table α) (f : α → β) : Prop :=
  ∀ j k a b, t.find? j = some a → t.find? k = some b → f a=f b → j=k

section Unique
variable {β : Type*} {t : Table α} {f : α → β}

theorem Unique.insert {a : α} (h : t.Unique f) (ha : ∀ k b, t.find? k = some b → f b≠f a) :
    (t.insert a).Unique f := by
  intro j k b c hj hk hbc
  rw [find?_insert] at hj hk
  split_ifs at hj hk with hj' hk' hk'
  · rw [hj',hk']
  · obtain rfl := Option.some.inj hj
    exact absurd hbc.symm (ha k c hk)
  · obtain rfl := Option.some.inj hk
    exact absurd hbc (ha j b hj)
  · exact h j k b c hj hk hbc

theorem Unique.mapRows {g : ℕ → α → α} (h : t.Unique f) (hg : ∀ k a, t.find? k = some a → f (g k a) = f a) :
    (t.mapRows g).Unique f := by
  intro j k a b hj hk hab
  rw [find?_mapRows] at hj hk
  obtain ⟨a',ha,rfl⟩ := Option.map_eq_some_iff.mp hj
  obtain ⟨b',hb,rfl⟩ := Option.map_eq_some_iff.mp hk
  rw [hg j a' ha,hg k b' hb] at hab
  exact h j k a' b' ha hb hab

theorem Unique.set {k : ℕ} {a b : α} (h : t.Unique f) (hb : t.find? k = some b) (hab : f a=f b) :
    (t.set k a).Unique f := by
  apply h.mapRows
  intro j c hc
  split_ifs with hj
  · subst j
    obtain rfl := Option.some.inj (hb.symm.trans hc)
    exact hab
  · rfl

end Unique

/-- The sum of a column over all rows. -/
def sum {M : Type*} [AddCommMonoid M] (t : Table α) (f : ℕ → α → M) : M :=
  (t.rows.map (fun r => f r.1 r.2)).sum

section Sum
variable {M : Type*} [AddCommMonoid M]

@[simp] theorem sum_empty (f : ℕ → α → M) : (empty : Table α).sum f = 0 := rfl

@[simp] theorem sum_insert (t : Table α) (a : α) (f : ℕ → α → M) :
    (t.insert a).sum f = t.sum f + f t.next a := by simp [sum,insert]

/-- Overwriting a row exchanges its summand. -/
theorem sum_set {t : Table α} {k : ℕ} {b : α} (a : α) (f : ℕ → α → M) (h : t.find? k = some b) :
    (t.set k a).sum f + f k b = t.sum f + f k a := by
  have hm := (find?_eq_some_iff t k b).mp h
  have hl : ∀ l : List (ℕ × α), l.Pairwise (fun r s => r.1 < s.1) → (k,b)∈l →
      (l.map (fun r => f r.1 (if r.1=k then a else r.2))).sum + f k b =
        (l.map (fun r => f r.1 r.2)).sum + f k a := by
    intro l
    induction l with
    | nil => intro _ hk; exact absurd hk List.not_mem_nil
    | cons r l ih =>
      intro hp hk
      obtain ⟨hr,hp⟩ := List.pairwise_cons.mp hp
      simp only [List.map_cons,List.sum_cons]
      rcases List.mem_cons.mp hk with rfl | hk
      · have hrest : (l.map (fun r => f r.1 (if r.1=k then a else r.2))) =
            l.map (fun r => f r.1 r.2) := by
          apply List.map_congr_left
          intro s hs
          rw [if_neg (hr s hs).ne']
        rw [hrest,if_pos rfl]
        abel
      · rw [if_neg (hr (k,b) hk).ne,add_assoc,ih hp hk,add_assoc]
  simpa [sum,set,mapRows,Function.comp_def] using hl t.rows t.ascending hm

theorem sum_mapRows (t : Table α) (f : ℕ → α → α) (g : ℕ → α → M) :
    (t.mapRows f).sum g = t.sum (fun k a => g k (f k a)) := by simp [sum,mapRows,Function.comp_def]

theorem sum_congr {t : Table α} {f g : ℕ → α → M} (h : ∀ k a, t.find? k = some a → f k a=g k a) :
    t.sum f = t.sum g := by
  unfold sum
  congr 1
  apply List.map_congr_left
  intro r hr
  exact h r.1 r.2 ((mem_rows_iff t r).mp hr)

end Sum

/-- A column that is nowhere greater and somewhere smaller than another has the smaller sum. -/
theorem sum_lt_sum {t : Table α} {f g : ℕ → α → ℕ} (hle : ∀ k a, t.find? k = some a → f k a≤g k a)
    {k : ℕ} {a : α} (hk : t.find? k = some a) (hlt : f k a<g k a) : t.sum f<t.sum g := by
  apply List.sum_lt_sum
  · intro r hr
    exact hle r.1 r.2 ((mem_rows_iff t r).mp hr)
  · exact ⟨(k,a),(find?_eq_some_iff t k a).mp hk,hlt⟩

theorem le_sum {t : Table α} {k : ℕ} {a : α} {f : ℕ → α → ℤ} (hf : ∀ j b, t.find? j = some b → 0≤f j b)
    (h : t.find? k = some a) : f k a ≤ t.sum f := by
  apply List.single_le_sum
  · intro x hx
    obtain ⟨r,hr,rfl⟩ := List.mem_map.mp hx
    exact hf r.1 r.2 ((mem_rows_iff t r).mp hr)
  · exact List.mem_map.mpr ⟨(k,a),(find?_eq_some_iff t k a).mp h,rfl⟩

/-- The row with the greatest value of a column, and the greatest key among ties. -/
def latest? (rows : List (ℕ × α)) (f : α → ℤ) : Option (ℕ × α) :=
  rows.foldl (fun best r => match best with
    | none => some r
    | some b => if f b.2≤f r.2 then some r else some b) none

theorem latest?_spec (rows : List (ℕ × α)) (f : α → ℤ) :
    match latest? rows f with
    | none => rows=[]
    | some b => b∈rows ∧ ∀ r∈rows, f r.2≤f b.2 := by
  induction rows using List.reverseRecOn with
  | nil => rfl
  | append_singleton rows r ih =>
    unfold latest? at ih ⊢
    rw [List.foldl_append,List.foldl_cons,List.foldl_nil]
    cases hb : rows.foldl _ none with
    | none =>
      rw [hb] at ih
      subst rows
      simp
    | some b =>
      rw [hb] at ih
      obtain ⟨hm,hmax⟩ := ih
      dsimp only
      split_ifs with hle
      · refine ⟨by simp,?_⟩
        intro s hs
        rcases List.mem_append.mp hs with h | h
        · exact (hmax s h).trans hle
        · obtain rfl := List.mem_singleton.mp h
          exact le_rfl
      · refine ⟨List.mem_append_left _ hm,?_⟩
        intro s hs
        rcases List.mem_append.mp hs with h | h
        · exact hmax s h
        · obtain rfl := List.mem_singleton.mp h
          exact (not_le.mp hle).le

end Table
end Tierflow
