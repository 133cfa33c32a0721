import Mathlib.Data.List.Nodup
import Mathlib.Data.List.Sort
import Mathlib.Tactic

/-! Things with keys, gathered key by key. The groups stand in the order in which their keys first appear, and each
has its things in order; what is known of a group together with its number stays true while others are added. -/
namespace Tierflow
namespace Gather

section
variable {κ α : Type*} [DecidableEq κ] (key : α → κ)

/-- A thing joins the group of its key, or opens a group behind the others. -/
def add (l : List (κ × List α)) (a : α) : List (κ × List α) :=
  if key a∈l.map Prod.fst then l.map (fun g => if g.1 = key a then (g.1,g.2++[a]) else g) else l++[(key a,[a])]

def gather (as : List α) : List (κ × List α) := as.foldl (add key) []

variable {key} {l : List (κ × List α)} {a : α}

@[simp] lemma gather_nil : gather key ([] : List α) = [] := rfl

lemma gather_concat (as : List α) (a : α) : gather key (as++[a]) = add key (gather key as) a := by
  unfold gather
  rw [List.foldl_append,List.foldl_cons,List.foldl_nil]

lemma add_of_mem (h : key a∈l.map Prod.fst) :
    add key l a = l.map (fun g => if g.1 = key a then (g.1,g.2++[a]) else g) := if_pos h

lemma add_of_notMem (h : key a∉l.map Prod.fst) : add key l a = l++[(key a,[a])] := if_neg h

lemma keys_add_of_mem (h : key a∈l.map Prod.fst) : (add key l a).map Prod.fst = l.map Prod.fst := by
  rw [add_of_mem h,List.map_map]
  apply List.map_congr_left
  intro g _
  simp only [Function.comp_apply]
  split_ifs <;> rfl

lemma keys_add_of_notMem (h : key a∉l.map Prod.fst) : (add key l a).map Prod.fst = l.map Prod.fst++[key a] := by
  rw [add_of_notMem h,List.map_append,List.map_singleton]

/-- No key has two groups. -/
lemma nodup_keys (as : List α) : ((gather key as).map Prod.fst).Nodup := by
  induction as using List.reverseRecOn with
  | nil => exact List.nodup_nil
  | append_singleton as a ih =>
    rw [gather_concat]
    by_cases h : key a∈(gather key as).map Prod.fst
    · rwa [keys_add_of_mem h]
    · rw [keys_add_of_notMem h,List.nodup_append]
      refine ⟨ih,List.nodup_singleton _,?_⟩
      rintro k hk k' hk' rfl
      exact h (List.mem_singleton.mp hk' ▸ hk)

lemma mem_keys {as : List α} {k : κ} : k∈(gather key as).map Prod.fst ↔ ∃ a∈as, key a = k := by
  induction as using List.reverseRecOn with
  | nil => simp
  | append_singleton as a ih =>
    rw [gather_concat]
    simp only [List.mem_append,List.mem_singleton,or_and_right,exists_or,exists_eq_left]
    by_cases h : key a∈(gather key as).map Prod.fst
    · rw [keys_add_of_mem h,ih]
      refine ⟨.inl,fun hk => hk.elim id ?_⟩
      rintro rfl
      exact ih.mp h
    · rw [keys_add_of_notMem h,List.mem_append,ih,List.mem_singleton,eq_comm]

lemma gather_eq_nil_iff {as : List α} : gather key as = [] ↔ as = [] := by
  constructor
  · intro h
    by_contra hne
    obtain ⟨a,l,rfl⟩ := List.exists_cons_of_ne_nil hne
    have hmem : key a∈(gather key (a::l)).map Prod.fst := mem_keys.mpr ⟨a,List.mem_cons_self,rfl⟩
    rw [h] at hmem
    cases hmem
  · rintro rfl
    rfl

/-- A group has all the things of its key, in order. -/
lemma snd_of_mem {as : List α} {g : κ × List α} (hg : g∈gather key as) : g.2 = as.filter (fun a => key a = g.1) := by
  induction as using List.reverseRecOn generalizing g with
  | nil => simp at hg
  | append_singleton as a ih =>
    rw [gather_concat] at hg
    rw [List.filter_append]
    by_cases h : key a∈(gather key as).map Prod.fst
    · rw [add_of_mem h] at hg
      obtain ⟨g',hg',rfl⟩ := List.mem_map.mp hg
      by_cases hk : g'.1 = key a
      · rw [if_pos hk,ih hg']
        simp [hk]
      · rw [if_neg hk,ih hg']
        simp [Ne.symm hk]
    · rw [add_of_notMem h] at hg
      rcases List.mem_append.mp hg with hg | hg
      · have hk : key a≠g.1 := fun hk => h (hk ▸ List.mem_map_of_mem hg)
        rw [ih hg]
        simp [hk]
      · obtain rfl := List.mem_singleton.mp hg
        have hold : as.filter (fun b => key b = key a) = [] := by
          apply List.filter_eq_nil_iff.mpr
          intro b hb hk
          exact h (mem_keys.mpr ⟨b,hb,of_decide_eq_true hk⟩)
        simp [hold]

lemma ne_nil_of_mem {as : List α} {g : κ × List α} (hg : g∈gather key as) : g.2≠[] := by
  obtain ⟨a,ha,hk⟩ := mem_keys.mp (List.mem_map_of_mem (f:=Prod.fst) hg)
  rw [snd_of_mem hg]
  exact List.ne_nil_of_mem (List.mem_filter.mpr ⟨ha,decide_eq_true hk⟩)

lemma key_of_mem {as : List α} {g : κ × List α} (hg : g∈gather key as) (ha : a∈g.2) : key a = g.1 := by
  rw [snd_of_mem hg] at ha
  exact of_decide_eq_true (List.mem_filter.mp ha).2

/-- The keys of the groups, each where it first appears. -/
lemma keys_gather (as : List α) : (gather key as).map Prod.fst = (as.map key).eraseDups := by
  induction as using List.reverseRecOn with
  | nil => rfl
  | append_singleton as a ih =>
    rw [gather_concat,List.map_append,List.eraseDups_append,←ih]
    by_cases h : key a∈(gather key as).map Prod.fst
    · have hmem : key a∈as.map key := by simpa [ih] using h
      have hold : List.removeAll [key a] (as.map key) = [] := by
        rw [List.removeAll,List.filter_cons_of_neg (by simpa using hmem),List.filter_nil]
      rw [keys_add_of_mem h,List.map_singleton,hold,List.eraseDups_nil,List.append_nil]
    · have hnot : key a∉as.map key := by simpa [ih] using h
      have hnew : List.removeAll [key a] (as.map key) = [key a] := by
        rw [List.removeAll,List.filter_cons_of_pos (by simpa using hnot),List.filter_nil]
      rw [keys_add_of_notMem h,List.map_singleton,hnew]
      rfl

section Update
variable {β : Type*} (f : α → β → β) (b : β)

/-- What is kept for the key of a thing is changed; for a new key something new is. -/
def update (l : List (κ × β)) (k : κ) (change : β → β) : List (κ × β) :=
  if k∈l.map Prod.fst then l.map (fun r => if r.1 = k then (r.1,change r.2) else r) else l++[(k,change b)]

variable (key) in
/-- Changes that are made one by one are those of each group. -/
theorem foldl_update (as : List α) : as.foldl (fun l a => update b l (key a) (f a)) [] =
    (gather key as).map (fun g => (g.1,g.2.foldl (fun b a => f a b) b)) := by
  induction as using List.reverseRecOn with
  | nil => rfl
  | append_singleton as a ih =>
    have hkeys : ((gather key as).map (fun g => (g.1,g.2.foldl (fun b a => f a b) b))).map Prod.fst =
        (gather key as).map Prod.fst := by
      rw [List.map_map]
      rfl
    rw [List.foldl_append,List.foldl_cons,List.foldl_nil,ih,gather_concat,update,hkeys]
    by_cases h : key a∈(gather key as).map Prod.fst
    · rw [if_pos h,add_of_mem h,List.map_map,List.map_map]
      apply List.map_congr_left
      intro g _
      by_cases hg : g.1 = key a
      · simp [hg]
      · simp [hg]
    · rw [if_neg h,add_of_notMem h,List.map_append]
      rfl

end Update

/-! ## Numbered groups -/

/-- A group with its number takes this thing in if it has its key. -/
def bump (key : α → κ) (a : α) (q : (κ × List α) × ℕ) : (κ × List α) × ℕ :=
  if q.1.1 = key a then ((q.1.1,q.1.2++[a]),q.2) else q

lemma zipIdx_add_of_mem (h : key a∈l.map Prod.fst) : (add key l a).zipIdx = l.zipIdx.map (bump key a) := by
  rw [add_of_mem h,List.zipIdx_map]
  apply List.map_congr_left
  intro q _
  unfold bump
  simp only [Prod.map]
  split_ifs <;> rfl

lemma zipIdx_add_of_notMem (h : key a∉l.map Prod.fst) :
    (add key l a).zipIdx = l.zipIdx++[((key a,[a]),l.length)] := by
  rw [add_of_notMem h,List.zipIdx_append]
  simp

/-- The number of a group is known from its key. -/
lemma eq_of_key_eq {as : List α} {q r : (κ × List α) × ℕ} (hq : q∈(gather key as).zipIdx)
    (hr : r∈(gather key as).zipIdx) (h : q.1.1 = r.1.1) : q = r := by
  obtain ⟨g,i⟩ := q
  obtain ⟨g',j⟩ := r
  have hi : (gather key as)[i]? = some g := List.mk_mem_zipIdx_iff_getElem?.mp hq
  have hj : (gather key as)[j]? = some g' := List.mk_mem_zipIdx_iff_getElem?.mp hr
  have hkeys : ((gather key as).map Prod.fst)[i]? = ((gather key as).map Prod.fst)[j]? := by
    rw [List.getElem?_map,List.getElem?_map,hi,hj]
    exact congrArg some h
  have hlt : i < ((gather key as).map Prod.fst).length := by
    rw [List.length_map]
    exact (List.getElem?_eq_some_iff.mp hi).1
  obtain rfl := (List.getElem?_inj hlt (nodup_keys as)).mp hkeys
  rw [hi] at hj
  rw [Option.some.inj hj]

/-- What the members of the groups have is updated by the thing that joins them. -/
lemma filterMap_add_of_mem {γ : Type*} {e : (κ × List α) × ℕ → Option γ} {u : γ → γ} (h : key a∈l.map Prod.fst)
    (he : ∀ q∈l.zipIdx, e (bump key a q) = (e q).map u) :
    (add key l a).zipIdx.filterMap e = (l.zipIdx.filterMap e).map u := by
  rw [zipIdx_add_of_mem h,List.filterMap_map,List.map_filterMap]
  exact List.filterMap_congr he

lemma filterMap_add_of_notMem {γ : Type*} {e : (κ × List α) × ℕ → Option γ} (h : key a∉l.map Prod.fst) :
    (add key l a).zipIdx.filterMap e = l.zipIdx.filterMap e++(e ((key a,[a]),l.length)).toList := by
  rw [zipIdx_add_of_notMem h,List.filterMap_append]
  cases he : e ((key a,[a]),l.length) with
  | none => rw [List.filterMap_cons_none he]; rfl
  | some c => rw [List.filterMap_cons_some he]; rfl

end

/-! ## What the groups have sent -/

section
variable {κ α β : Type*} (number : β → Option ℕ) (f : (κ × List α) × ℕ → List β)

/-- Of all that was sent, what carries a number is what the group with this number sent. -/
def Sent (groups : List (κ × List α)) (sent : List β) : Prop :=
  ∀ k, sent.filter (fun b => number b = some k) = (groups[k]?).elim [] (fun g => f (g,k))

variable {number f} {groups : List (κ × List α)} {sent new : List β}

lemma Sent.append_silent (h : Sent number f groups sent) (hnew : ∀ b∈new, number b = none) :
    Sent number f groups (sent++new) := by
  intro k
  have hnone : new.filter (fun b => number b = some k) = [] := by
    apply List.filter_eq_nil_iff.mpr
    intro b hb
    rw [hnew b hb]
    simp
  rw [List.filter_append,h k,hnone,List.append_nil]

lemma filter_number {k : ℕ} (hnew : ∀ b∈new, number b = some k) (j : ℕ) :
    new.filter (fun b => number b = some j) = if j = k then new else [] := by
  split_ifs with hj
  · subst hj
    apply List.filter_eq_self.mpr
    intro b hb
    rw [hnew b hb]
    simp
  · apply List.filter_eq_nil_iff.mpr
    intro b hb
    rw [hnew b hb]
    simp [Ne.symm hj]

variable [DecidableEq κ] {key : α → κ}

/-- A group sends something more for a thing that joins it. -/
lemma Sent.grow {a : α} {k : ℕ} {g : κ × List α} (h : Sent number f groups sent) (hg : groups[k]? = some g)
    (hk : g.1 = key a) (hone : ∀ j g', groups[j]? = some g' → g'.1 = key a → j = k)
    (hnew : ∀ b∈new, number b = some k) (hf : f ((g.1,g.2++[a]),k) = f (g,k)++new) :
    Sent number f (add key groups a) (sent++new) := by
  intro j
  have hmem : key a∈groups.map Prod.fst := hk ▸ List.mem_map_of_mem (List.mem_of_getElem? hg)
  rw [List.filter_append,h j,filter_number hnew,add_of_mem hmem,List.getElem?_map]
  split_ifs with hj
  · subst hj
    rw [hg,Option.map_some,Option.elim_some,Option.elim_some,if_pos hk]
    exact hf.symm
  · rw [List.append_nil]
    cases hg' : groups[j]? with
    | none => rfl
    | some g' => rw [Option.map_some,if_neg (fun hk' => hj (hone j g' hg' hk'))]

/-- A group that is opened begins with what it sends for its first thing. -/
lemma Sent.extend {a : α} (h : Sent number f groups sent) (hnot : key a∉groups.map Prod.fst)
    (hnew : ∀ b∈new, number b = some groups.length) (hf : f ((key a,[a]),groups.length) = new) :
    Sent number f (add key groups a) (sent++new) := by
  intro j
  rw [List.filter_append,h j,filter_number hnew,add_of_notMem hnot]
  rcases Nat.lt_trichotomy j groups.length with hj | rfl | hj
  · rw [if_neg (by omega),List.append_nil,List.getElem?_append_left hj]
  · rw [if_pos rfl,List.getElem?_concat_length,List.getElem?_eq_none le_rfl,Option.elim_some,hf]
    rfl
  · rw [if_neg (by omega),List.getElem?_eq_none hj.le,List.getElem?_eq_none (by simp; omega)]
    rfl

end

/-! ## Lists by number -/

section
variable {α β γ : Type*}

/-- Of what all members have sent, what carries a number was sent by the member with this number. -/
lemma filter_flatMap_zipIdx (number : β → Option ℕ) (f : α × ℕ → List β)
    (hf : ∀ q, ∀ b∈f q, number b = some q.2) (l : List α) (n k : ℕ) :
    ((l.zipIdx n).flatMap f).filter (fun b => number b = some k) =
      if n≤k then (l[k-n]?).elim [] (fun a => f (a,k)) else [] := by
  induction l generalizing n with
  | nil => simp
  | cons a l ih =>
    rw [List.zipIdx_cons,List.flatMap_cons,List.filter_append,ih (n+1)]
    rcases Nat.lt_trichotomy n k with h | rfl | h
    · have hne : (f (a,n)).filter (fun b => number b = some k) = [] := by
        apply List.filter_eq_nil_iff.mpr
        intro b hb
        rw [hf _ b hb]
        simp
        omega
      have hk : k-n = k-(n+1)+1 := by omega
      rw [hne,List.nil_append,if_pos (by omega),if_pos h.le,hk,List.getElem?_cons_succ]
    · have hall : (f (a,n)).filter (fun b => number b = some n) = f (a,n) := by
        apply List.filter_eq_self.mpr
        intro b hb
        rw [hf _ b hb]
        simp
      rw [hall,if_neg (by omega),if_pos le_rfl]
      simp
    · have hne : (f (a,n)).filter (fun b => number b = some k) = [] := by
        apply List.filter_eq_nil_iff.mpr
        intro b hb
        rw [hf _ b hb]
        simp
        omega
      rw [hne,if_neg (by omega),if_neg (by omega),List.append_nil]

lemma eq_filter_append_of_sorted {key : α → ℕ} {l : List α} (hs : (l.map key).Pairwise (· ≤ ·)) (n : ℕ) :
    l = l.filter (fun a => key a < n)++l.filter (fun a => n≤key a) := by
  induction l with
  | nil => rfl
  | cons a l ih =>
    rw [List.map_cons,List.pairwise_cons] at hs
    obtain ⟨hfirst,htail⟩ := hs
    by_cases ha : key a<n
    · rw [List.filter_cons_of_pos (by simpa using ha),List.filter_cons_of_neg (by simpa using ha),List.cons_append,
        ←ih htail]
    · have hall : ∀ b∈l, n≤key b := fun b hb => (not_lt.mp ha).trans (hfirst _ (List.mem_map_of_mem hb))
      have hnone : l.filter (fun b => key b < n) = [] := by
        apply List.filter_eq_nil_iff.mpr
        intro b hb
        simpa using hall b hb
      have hself : l.filter (fun b => n≤key b) = l := List.filter_eq_self.mpr (fun b hb => by simpa using hall b hb)
      rw [List.filter_cons_of_neg (by simpa using ha),List.filter_cons_of_pos (by simpa using ha),hnone,hself]
      rfl

/-- A list that is sorted by number is its parts of each number, one after the other. -/
lemma eq_flatMap_of_sorted {key : α → ℕ} {l : List α} (hs : (l.map key).Pairwise (· ≤ ·)) {n : ℕ}
    (hn : ∀ a∈l, key a < n) : l = (List.range n).flatMap (fun k => l.filter (fun a => key a = k)) := by
  induction n generalizing l with
  | zero =>
    cases l with
    | nil => rfl
    | cons a l => exact absurd (hn a List.mem_cons_self) (Nat.not_lt_zero _)
  | succ n ih =>
    have hsub : ((l.filter (fun a => key a < n)).map key).Pairwise (· ≤ ·) :=
      hs.sublist (List.filter_sublist.map key)
    have hlow := ih hsub (fun a ha => by simpa using (List.mem_filter.mp ha).2)
    have hsplit := eq_filter_append_of_sorted hs n
    have htop : l.filter (fun a => n≤key a) = l.filter (fun a => key a = n) := by
      apply List.filter_congr
      intro a ha
      have := hn a ha
      exact decide_eq_decide.mpr ⟨fun h => by omega,fun h => by omega⟩
    have hparts : ∀ k∈List.range n, (l.filter (fun a => key a < n)).filter (fun a => key a = k) =
        l.filter (fun a => key a = k) := by
      intro k hk
      rw [List.filter_filter]
      apply List.filter_congr
      intro a _
      have := List.mem_range.mp hk
      by_cases h : key a = k
      · simp [h,this]
      · simp [h]
    rw [List.flatMap_congr hparts] at hlow
    rw [List.range_succ,List.flatMap_append,List.flatMap_singleton,←htop,←hlow]
    exact hsplit

/-- Members that are looked up by number, from the first to the last. -/
lemma filterMap_range_getElem? (f : α → Option β) (l : List α) :
    (List.range l.length).filterMap (fun k => (l[k]?).bind f) = l.filterMap f := by
  induction l using List.reverseRecOn with
  | nil => rfl
  | append_singleton l a ih =>
    have hold : ∀ k∈List.range l.length, ((l++[a])[k]?).bind f = (l[k]?).bind f := by
      intro k hk
      rw [List.getElem?_append_left (List.mem_range.mp hk)]
    have hlast : ((l++[a])[l.length]?).bind f = f a := by
      rw [List.getElem?_concat_length]
      rfl
    rw [List.length_append,List.length_singleton,List.range_succ,List.filterMap_append,List.filterMap_append,
      List.filterMap_congr hold,ih]
    simp only [List.filterMap_cons,hlast,List.filterMap_nil]

/-- Every member is either of one kind or of the other. -/
lemma perm_filterMap_append {f g : α → Option β} {h : α → β} {l : List α}
    (hfg : ∀ a∈l, (f a = some (h a) ∧ g a = none) ∨ (f a = none ∧ g a = some (h a))) :
    (l.filterMap f++l.filterMap g).Perm (l.map h) := by
  induction l with
  | nil => exact .refl _
  | cons a l ih =>
    have hl := ih (fun b hb => hfg b (List.mem_cons_of_mem _ hb))
    rcases hfg a List.mem_cons_self with ⟨hf,hg⟩ | ⟨hf,hg⟩
    · rw [List.filterMap_cons_some hf,List.filterMap_cons_none hg,List.map_cons,List.cons_append]
      exact hl.cons _
    · rw [List.filterMap_cons_none hf,List.filterMap_cons_some hg,List.map_cons]
      exact List.perm_middle.trans (hl.cons _)

/-- Members of two lists correspond one by one as soon as the lists have one length, even if some could be missing. -/
lemma forall₂_filterMap_iff {R : α → γ → Prop} {f : β → Option γ} {l : List α} {m : List β}
    (hlen : l.length = m.length) :
    List.Forall₂ R l (m.filterMap f) ↔ List.Forall₂ (fun a b => ∃ c, f b = some c ∧ R a c) l m := by
  induction m generalizing l with
  | nil =>
    obtain rfl := List.length_eq_zero_iff.mp hlen
    simp
  | cons b m ih =>
    obtain ⟨a,l,rfl⟩ := List.exists_cons_of_length_eq_add_one hlen
    have hl : l.length = m.length := by simpa using hlen
    rw [List.forall₂_cons,←ih hl]
    cases hb : f b with
    | none =>
      rw [List.filterMap_cons_none hb]
      refine iff_of_false (fun h => ?_) (by simp)
      have := h.length_eq
      have := List.length_filterMap_le f m
      rw [List.length_cons] at *
      omega
    | some c =>
      rw [List.filterMap_cons_some hb,List.forall₂_cons]
      simp

lemma forall₂_congr_of_mem {R S : α → β → Prop} {l : List α} {m : List β} (h : ∀ a∈l, ∀ b, R a b ↔ S a b) :
    List.Forall₂ R l m ↔ List.Forall₂ S l m := by
  induction l generalizing m with
  | nil => rw [List.forall₂_nil_left_iff,List.forall₂_nil_left_iff]
  | cons a l ih =>
    cases m with
    | nil => simp
    | cons b m =>
      rw [List.forall₂_cons,List.forall₂_cons,h a List.mem_cons_self b,ih (fun a ha => h a (List.mem_cons_of_mem _ ha))]

/-- Sorting by number puts numbered members back in order. -/
lemma insertionSort_of_perm {l : List (ℕ × β)} {m : List α} {h : α × ℕ → β}
    (hl : l.Perm (m.zipIdx.map (fun q => (q.2,h q)))) :
    (l.insertionSort (fun a b => a.1≤b.1)).map Prod.snd = m.zipIdx.map h := by
  have hsorted : (m.zipIdx.map (fun q => (q.2,h q))).Pairwise (fun a b => a.1 < b.1) := by
    rw [List.pairwise_map]
    have hidx : (m.zipIdx.map Prod.snd).Pairwise (· < ·) := by
      rw [List.zipIdx_map_snd]
      exact List.pairwise_lt_range'
    exact (List.pairwise_map.mp hidx).imp id
  have heq : l.insertionSort (fun a b => a.1≤b.1) = m.zipIdx.map (fun q => (q.2,h q)) := by
    have : IsTrans (ℕ × β) (fun a b => a.1≤b.1) := ⟨fun _ _ _ => le_trans⟩
    have : Std.Total (fun a b : ℕ × β => a.1≤b.1) := ⟨fun a b => le_total a.1 b.1⟩
    refine List.Perm.eq_of_pairwise ?_ (List.pairwise_insertionSort _ l) (hsorted.imp le_of_lt)
      ((List.perm_insertionSort _ l).trans hl)
    intro a b ha hb hab hba
    obtain ⟨⟨x,i⟩,hq,rfl⟩ := List.mem_map.mp (((List.perm_insertionSort _ l).trans hl).mem_iff.mp ha)
    obtain ⟨⟨y,j⟩,hr,rfl⟩ := List.mem_map.mp hb
    obtain rfl : i = j := le_antisymm hab hba
    have hxy := (List.mk_mem_zipIdx_iff_getElem?.mp hq).symm.trans (List.mk_mem_zipIdx_iff_getElem?.mp hr)
    rw [Option.some.inj hxy]
  rw [heq,List.map_map]
  rfl

end

end Gather
end Tierflow
