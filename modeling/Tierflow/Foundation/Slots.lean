import Mathlib.Data.List.Sort
import Mathlib.Tactic

/-! Things that name the place at which they belong. A row of places grows, filled up with blanks, as far as the things
reach; what has been absorbed at each place is what the things of that place come to, however they were mixed. -/
namespace Tierflow
namespace Slots
variable {α β : Type*} (blank : β) (absorb : β → α → β) (place : α → ℕ)

def put (row : List β) (a : α) : List β :=
  (row++List.replicate (place a+1-row.length) blank).modify (place a) (fun b => absorb b a)

/-- So many places are reached. -/
def width (as : List α) : ℕ := as.foldl (fun n a => max n (place a+1)) 0

/-- What the things of one place come to. -/
def content (as : List α) (s : ℕ) : β := (as.filter (fun a => place a = s)).foldl absorb blank

variable {place} {as : List α} {a : α} {s : ℕ}

lemma width_concat : width place (as++[a]) = max (width place as) (place a+1) := by
  unfold width
  rw [List.foldl_concat]

lemma place_lt_width (ha : a∈as) : place a < width place as := by
  induction as using List.reverseRecOn with
  | nil => exact absurd ha List.not_mem_nil
  | append_singleton as b ih =>
    rw [width_concat]
    rcases List.mem_append.mp ha with ha | ha
    · exact lt_of_lt_of_le (ih ha) (le_max_left _ _)
    · rw [List.mem_singleton.mp ha]
      exact lt_of_lt_of_le (Nat.lt_succ_self _) (le_max_right _ _)

variable {blank absorb}

lemma content_of_forall_ne (h : ∀ a∈as, place a≠s) : content blank absorb place as s = blank := by
  have hnone : as.filter (fun a => place a = s) = [] := by
    rw [List.filter_eq_nil_iff]
    intro a ha hs
    exact h a ha (of_decide_eq_true hs)
  rw [content,hnone,List.foldl_nil]

lemma content_concat : content blank absorb place (as++[a]) s =
    if place a = s then absorb (content blank absorb place as s) a else content blank absorb place as s := by
  unfold content
  rw [List.filter_append]
  by_cases hs : place a = s
  · rw [if_pos hs,List.filter_singleton,decide_eq_true hs,cond_true,List.foldl_concat]
  · rw [if_neg hs,List.filter_singleton,decide_eq_false hs,cond_false,List.append_nil]

/-- The row shows the content of every place that has been reached. -/
theorem foldl_put (as : List α) : as.foldl (put blank absorb place) [] =
    (List.range (width place as)).map (content blank absorb place as) := by
  induction as using List.reverseRecOn with
  | nil => rfl
  | append_singleton as a ih =>
    rw [List.foldl_concat,ih,put,width_concat]
    apply List.ext_getElem?
    intro s
    rw [List.getElem?_modify,List.getElem?_map,List.length_map,List.length_range]
    by_cases hold : s < width place as
    · have hnew : s < max (width place as) (place a+1) := lt_of_lt_of_le hold (le_max_left _ _)
      rw [List.getElem?_append_left (by simpa using hold),List.getElem?_map,List.getElem?_range hold,
        List.getElem?_range hnew,Option.map_some,Option.map_some,content_concat]
      rfl
    · have hblank : content blank absorb place as s = blank :=
        content_of_forall_ne (fun b hb heq => hold (heq ▸ place_lt_width hb))
      rw [List.getElem?_append_right (by simpa using hold),List.length_map,List.length_range,List.getElem?_replicate]
      by_cases hnew : s < place a+1
      · rw [if_pos (by omega),List.getElem?_range (by omega),Option.map_some,content_concat,hblank]
        rfl
      · rw [if_neg (by omega),List.getElem?_eq_none (by rw [List.length_range]; omega)]
        rfl

/-- Of a row in which every thing belongs to one of the given places, what is not blank stands in their order. -/
theorem filter_foldl_put {filled : β → Bool} (hblank : filled blank = false) {slots : List ℕ}
    (hslots : slots.Pairwise (fun s t => s < t)) (hplace : ∀ a∈as, place a∈slots) :
    (as.foldl (put blank absorb place) []).filter filled =
      (slots.map (content blank absorb place as)).filter filled := by
  rw [foldl_put,List.filter_map,List.filter_map]
  refine congrArg (List.map _) ?_
  have hsorted := (List.pairwise_lt_range (n := width place as)).filter (filled∘content blank absorb place as)
  have hsorted' := hslots.filter (filled∘content blank absorb place as)
  refine List.Perm.eq_of_pairwise (fun s t _ _ hst hts => absurd hst (lt_asymm hts)) hsorted hsorted' ?_
  rw [List.perm_ext_iff_of_nodup (hsorted.imp Nat.ne_of_lt) (hsorted'.imp Nat.ne_of_lt)]
  intro s
  rw [List.mem_filter,List.mem_filter,List.mem_range]
  -- a place that is filled has been reached
  have hreached : filled (content blank absorb place as s) = true → ∃ a∈as, place a = s := by
    intro h
    by_contra hne
    rw [content_of_forall_ne (fun a ha heq => hne ⟨a,ha,heq⟩),hblank] at h
    cases h
  constructor
  · rintro ⟨-,h⟩
    obtain ⟨a,ha,rfl⟩ := hreached h
    exact ⟨hplace a ha,h⟩
  · rintro ⟨-,h⟩
    obtain ⟨a,ha,rfl⟩ := hreached h
    exact ⟨place_lt_width ha,h⟩

end Slots
end Tierflow
