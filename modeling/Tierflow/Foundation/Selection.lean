import Mathlib.Data.List.Sort
import Mathlib.Tactic

/-! Picking from a list: preferences that give way when nothing meets them, tiers of equal priority,
and random draws by weight. A draw is a function of the number that was rolled; what it can return
is what it returns for some roll. -/
namespace Tierflow
namespace Selection
variable {α β : Type*}

/-! ## Preferences -/

/-- Keep what meets the first preference that anything meets; everything if there is none. -/
def relax : List (α → Bool) → List α → List α
  | [],l => l
  | p::ps,l => if l.filter p = [] then relax ps l else l.filter p

lemma relax_subset (ps : List (α → Bool)) (l : List α) : relax ps l⊆l := by
  induction ps with
  | nil => exact List.Subset.refl l
  | cons p ps ih =>
    rw [relax]
    split_ifs
    · exact ih
    · exact fun a ha => (List.mem_filter.mp ha).1

lemma relax_ne_nil (ps : List (α → Bool)) {l : List α} (h : l≠[]) : relax ps l≠[] := by
  induction ps with
  | nil => exact h
  | cons p ps ih =>
    rw [relax]
    split_ifs with hp
    · exact ih
    · exact hp

/-- What every preference demands is met as soon as one candidate meets one of them. -/
lemma relax_meets {ps : List (α → Bool)} {l : List α} {q : α → Prop} (hq : ∀ p∈ps, ∀ a, p a = true → q a)
    (hex : ∃ p∈ps, ∃ a∈l, p a = true) : ∀ a∈relax ps l, q a := by
  induction ps with
  | nil =>
    obtain ⟨p,hp,-⟩ := hex
    exact absurd hp List.not_mem_nil
  | cons p ps ih =>
    intro a ha
    rw [relax] at ha
    split_ifs at ha with hp
    · apply ih (fun p' hp' => hq p' (List.mem_cons_of_mem _ hp')) ?_ a ha
      obtain ⟨p',hp',b,hb,hpb⟩ := hex
      rcases List.mem_cons.mp hp' with rfl | hp'
      · have hmem := List.mem_filter.mpr ⟨hb,hpb⟩
        rw [hp] at hmem
        exact absurd hmem List.not_mem_nil
      · exact ⟨p',hp',b,hb,hpb⟩
    · exact hq p List.mem_cons_self a (List.mem_filter.mp ha).2

lemma relax_map (f : α → β) (ps : List (β → Bool)) (l : List α) :
    (relax (ps.map (· ∘ f)) l).map f = relax ps (l.map f) := by
  induction ps with
  | nil => rfl
  | cons p ps ih =>
    rw [List.map_cons,relax,relax,List.filter_map]
    by_cases hp : l.filter (p ∘ f) = []
    · rw [if_pos hp,if_pos (by rw [hp]; rfl),ih]
    · rw [if_neg hp,if_neg (by simpa using hp)]

/-- Only who is in the list matters, not how often and in which order. -/
lemma mem_relax_congr (ps : List (α → Bool)) {l l' : List α} (h : ∀ a, a∈l ↔ a∈l') (a : α) :
    a∈relax ps l ↔ a∈relax ps l' := by
  induction ps with
  | nil => exact h a
  | cons p ps ih =>
    have hmem : ∀ b, b∈l.filter p ↔ b∈l'.filter p := by
      intro b
      rw [List.mem_filter,List.mem_filter,h b]
    have hnil : l.filter p = [] ↔ l'.filter p = [] := by
      rw [List.eq_nil_iff_forall_not_mem,List.eq_nil_iff_forall_not_mem]
      exact forall_congr' (fun b => not_congr (hmem b))
    rw [relax,relax]
    by_cases hp : l.filter p = []
    · rw [if_pos hp,if_pos (hnil.mp hp)]
      exact ih
    · rw [if_neg hp,if_neg (fun hc => hp (hnil.mpr hc))]
      exact hmem a

/-! ## Tiers -/

/-- The different priorities, the highest first. -/
def tiers (ps : List ℤ) : List ℤ := ps.dedup.insertionSort (· ≥ ·)

/-- The priority of a tier; past the last tier it is the last one's. -/
def tierAt (ps : List ℤ) (n : ℕ) : Option ℤ := (tiers ps)[min n ((tiers ps).length-1)]?

@[simp] lemma mem_tiers {ps : List ℤ} {p : ℤ} : p∈tiers ps ↔ p∈ps := by
  unfold tiers
  rw [List.mem_insertionSort,List.mem_dedup]

lemma tiers_eq_nil {ps : List ℤ} : tiers ps = [] ↔ ps = [] := by
  rw [List.eq_nil_iff_forall_not_mem,List.eq_nil_iff_forall_not_mem]
  exact forall_congr' (fun p => not_congr mem_tiers)

lemma tiers_congr {ps qs : List ℤ} (h : ∀ p, p∈ps ↔ p∈qs) : tiers ps = tiers qs := by
  have hperm : (tiers ps).Perm (tiers qs) := by
    unfold tiers
    refine (List.perm_insertionSort _ _).trans (.trans ?_ (List.perm_insertionSort _ _).symm)
    rw [List.perm_ext_iff_of_nodup ps.nodup_dedup qs.nodup_dedup]
    intro p
    rw [List.mem_dedup,List.mem_dedup,h p]
  exact hperm.eq_of_pairwise' (List.pairwise_insertionSort (· ≥ ·) _) (List.pairwise_insertionSort (· ≥ ·) _)

lemma tierAt_congr {ps qs : List ℤ} (h : ∀ p, p∈ps ↔ p∈qs) (n : ℕ) : tierAt ps n = tierAt qs n := by
  rw [tierAt,tierAt,tiers_congr h]

lemma tierAt_mem {ps : List ℤ} {n : ℕ} {p : ℤ} (h : tierAt ps n = some p) : p∈ps :=
  mem_tiers.mp (List.mem_of_getElem? h)

lemma exists_tierAt {ps : List ℤ} (h : ps≠[]) (n : ℕ) : ∃ p, tierAt ps n = some p := by
  have hpos : 0<(tiers ps).length := List.length_pos_iff.mpr (fun hc => h (tiers_eq_nil.mp hc))
  have hlt : min n ((tiers ps).length-1)<(tiers ps).length := by omega
  exact ⟨_,List.getElem?_eq_getElem hlt⟩

/-- The first tier has the greatest priority of all. -/
lemma tierAt_zero {ps : List ℤ} {p : ℤ} (h : tierAt ps 0 = some p) : ∀ q∈ps, q≤p := by
  intro q hq
  have hs : (tiers ps).Pairwise (· ≥ ·) := List.pairwise_insertionSort (· ≥ ·) _
  have hq' := mem_tiers.mpr hq
  rw [tierAt,Nat.zero_min] at h
  cases ht : tiers ps with
  | nil =>
    rw [ht] at hq'
    exact absurd hq' List.not_mem_nil
  | cons t ts =>
    rw [ht] at h hq' hs
    obtain rfl := Option.some.inj h
    rcases List.mem_cons.mp hq' with rfl | hmem
    · exact le_rfl
    · exact (List.pairwise_cons.mp hs).1 q hmem

/-! ## Draws -/

/-- Walk along the list, taking the weights off; stop when the rest is negative. -/
def drawBelow (f : α → ℕ) : List α → ℤ → Option α
  | [],_ => none
  | a::l,r => if r-f a<0 then some a else drawBelow f l (r-f a)

/-- The same walk, stopping when nothing is left. -/
def drawUpTo (f : α → ℕ) : List α → ℤ → Option α
  | [],_ => none
  | a::l,r => if r-f a≤0 then some a else drawUpTo f l (r-f a)

/-- A number below the total can draw exactly what has a weight. -/
theorem exists_drawBelow_iff (f : α → ℕ) (l : List α) (a : α) :
    (∃ r : ℕ, r<(l.map f).sum ∧ drawBelow f l r = some a) ↔ a∈l ∧ 0<f a := by
  induction l with
  | nil => simp [drawBelow]
  | cons b l ih =>
    rw [List.map_cons,List.sum_cons]
    constructor
    · rintro ⟨r,hr,hd⟩
      rw [drawBelow] at hd
      split_ifs at hd with hb
      · obtain rfl := Option.some.inj hd
        exact ⟨List.mem_cons_self,by omega⟩
      · have hrest : ((r-f b : ℕ) : ℤ) = r-f b := by omega
        rw [←hrest] at hd
        have hm := ih.mp ⟨r-f b,by omega,hd⟩
        exact ⟨List.mem_cons_of_mem _ hm.1,hm.2⟩
    · rintro ⟨hm,hpos⟩
      by_cases hab : a = b
      · subst hab
        exact ⟨0,by omega,if_pos (by omega)⟩
      · obtain ⟨r,hr,hd⟩ := ih.mpr ⟨(List.mem_cons.mp hm).resolve_left hab,hpos⟩
        refine ⟨r+f b,by omega,?_⟩
        have hrest : ((r+f b : ℕ) : ℤ)-f b = r := by omega
        rw [drawBelow,if_neg (by omega),hrest]
        exact hd

/-- A number below the total always draws something. -/
lemma exists_drawBelow_of_lt (f : α → ℕ) {l : List α} {r : ℤ} (h0 : 0 ≤ r) (h : r<(l.map f).sum) :
    ∃ a, drawBelow f l r = some a := by
  induction l generalizing r with
  | nil =>
    rw [List.map_nil,List.sum_nil] at h
    omega
  | cons b l ih =>
    rw [List.map_cons,List.sum_cons,Nat.cast_add] at h
    rw [drawBelow]
    split_ifs with hb
    · exact ⟨b,rfl⟩
    · exact ih (by omega) (by omega)

lemma exists_drawUpTo_of_le (f : α → ℕ) {l : List α} {r : ℤ} (hne : l≠[]) (h : r≤(l.map f).sum) :
    ∃ a, drawUpTo f l r = some a := by
  induction l generalizing r with
  | nil => exact absurd rfl hne
  | cons b l ih =>
    rw [List.map_cons,List.sum_cons,Nat.cast_add] at h
    rw [drawUpTo]
    split_ifs with hb
    · exact ⟨b,rfl⟩
    · apply ih ?_ (by omega)
      rintro rfl
      rw [List.map_nil,List.sum_nil] at h
      omega

lemma exists_drawUpTo (f : α → ℕ) {l : List α} (hf : ∀ a∈l, 1<f a) {a : α} (ha : a∈l) :
    ∃ r : ℕ, 0 < r ∧ r<(l.map f).sum ∧ drawUpTo f l r = some a := by
  induction l with
  | nil => exact absurd ha List.not_mem_nil
  | cons b l ih =>
    have hb := hf b List.mem_cons_self
    rw [List.map_cons,List.sum_cons]
    by_cases hab : a = b
    · subst hab
      exact ⟨1,by omega,by omega,if_pos (by omega)⟩
    · obtain ⟨r,h0,hr,hd⟩ := ih (fun c hc => hf c (List.mem_cons_of_mem _ hc))
        ((List.mem_cons.mp ha).resolve_left hab)
      refine ⟨r+f b,by omega,by omega,?_⟩
      have hrest : ((r+f b : ℕ) : ℤ)-f b = r := by omega
      rw [drawUpTo,if_neg (by omega),hrest]
      exact hd

lemma drawUpTo_mem (f : α → ℕ) {l : List α} {r : ℤ} {a : α} (h : drawUpTo f l r = some a) : a∈l := by
  induction l generalizing r with
  | nil => exact nomatch h
  | cons b l ih =>
    rw [drawUpTo] at h
    split_ifs at h
    · obtain rfl := Option.some.inj h
      exact List.mem_cons_self
    · exact List.mem_cons_of_mem _ (ih h)

end Selection
end Tierflow
