import Mathlib.Data.List.Dedup
import Mathlib.Data.List.Nodup
import Mathlib.Data.Set.Function
import Mathlib.Tactic

/-! Candidates that take turns, where a turn uses up a key and not the candidate. As long as there is a fresh key the
first candidate of one is chosen, and then the first candidate of all. Candidates that share a key stand in for each
other, so the turns are fair exactly if none do, or if they end before the keys do. -/
namespace Tierflow

section
variable {α κ : Type*} [DecidableEq κ] (key : α → κ) (candidates : List α)

/-- The candidates that were chosen, the last one first. -/
inductive Turns : List α → Prop
  | nil : Turns []
  | fresh {a : α} {chosen : List α} (h : Turns chosen) (hfirst : candidates.find? (fun b => key b = key a) = some a)
      (hfresh : key a∉chosen.map key) : Turns (a::chosen)
  | again {a : α} {chosen : List α} (h : Turns chosen) (hall : ∀ b∈candidates, key b∈chosen.map key)
      (hhead : candidates.head? = some a) : Turns (a::chosen)

/-- Nobody has a second turn before everyone has had one. -/
def FairTurns (chosen : List α) : Prop :=
  ∀ a earlier, a::earlier<:+chosen → a∈earlier → ∀ b∈candidates, b∈earlier

variable {key candidates} {a : α} {chosen : List α}

lemma Turns.of_suffix {earlier : List α} (h : Turns key candidates chosen) (hs : earlier<:+chosen) :
    Turns key candidates earlier := by
  induction h with
  | nil =>
    rw [List.suffix_nil.mp hs]
    exact .nil
  | @fresh a chosen h hfirst hfresh ih =>
    rcases List.suffix_cons_iff.mp hs with rfl | hs
    · exact .fresh h hfirst hfresh
    · exact ih hs
  | @again a chosen h hall hhead ih =>
    rcases List.suffix_cons_iff.mp hs with rfl | hs
    · exact .again h hall hhead
    · exact ih hs

/-- Whoever is chosen is the first with its key. -/
lemma Turns.first (h : Turns key candidates chosen) (ha : a∈chosen) :
    candidates.find? (fun b => key b = key a) = some a := by
  induction h with
  | nil => exact absurd ha List.not_mem_nil
  | fresh h hfirst hfresh ih =>
    rcases List.mem_cons.mp ha with rfl | ha
    · exact hfirst
    · exact ih ha
  | again h hall hhead ih =>
    rcases List.mem_cons.mp ha with rfl | ha
    · cases candidates with
      | nil => contradiction
      | cons b rest =>
        obtain rfl := Option.some.inj hhead
        exact List.find?_cons_of_pos (decide_eq_true rfl)
    · exact ih ha

lemma Turns.mem (h : Turns key candidates chosen) (ha : a∈chosen) : a∈candidates :=
  List.mem_of_find?_eq_some (h.first ha)

lemma Turns.eq_of_key {b : α} (h : Turns key candidates chosen) (ha : a∈chosen) (hb : b∈chosen)
    (hkey : key a = key b) : a = b := by
  have hfirst := h.first ha
  rw [hkey,h.first hb] at hfirst
  exact (Option.some.inj hfirst).symm

lemma length_le_of_subset_keys {l : List κ} (h : ∀ b∈candidates, key b∈l) :
    (candidates.map key).dedup.length ≤ l.length := by
  apply List.Subperm.length_le
  apply List.subperm_of_subset (List.nodup_dedup _)
  intro k hk
  obtain ⟨b,hb,rfl⟩ := List.mem_map.mp (List.mem_dedup.mp hk)
  exact h b hb

/-- As long as there may be fresh keys each turn uses another one. -/
lemma Turns.nodup_keys (h : Turns key candidates chosen)
    (hlength : chosen.length≤(candidates.map key).dedup.length) : (chosen.map key).Nodup := by
  induction h with
  | nil => exact List.nodup_nil
  | fresh h hfirst hfresh ih =>
    rw [List.length_cons] at hlength
    exact List.nodup_cons.mpr ⟨hfresh,ih (by omega)⟩
  | again h hall hhead ih =>
    have hle := length_le_of_subset_keys hall
    rw [List.length_map] at hle
    rw [List.length_cons] at hlength
    omega

/-- Turns that have used up so many keys have used up all. -/
lemma Turns.all_keys (h : Turns key candidates chosen) (hlength : chosen.length = (candidates.map key).dedup.length) :
    ∀ b∈candidates, key b∈chosen.map key := by
  intro b hb
  have hsub : chosen.map key⊆(candidates.map key).dedup := by
    intro k hk
    obtain ⟨c,hc,rfl⟩ := List.mem_map.mp hk
    exact List.mem_dedup.mpr (List.mem_map_of_mem (h.mem hc))
  have hperm := (List.subperm_of_subset (h.nodup_keys hlength.le) hsub).perm_of_length_le
    (by rw [List.length_map,hlength])
  exact hperm.mem_iff.mpr (List.mem_dedup.mpr (List.mem_map_of_mem hb))

lemma Turns.fair_of_injOn (h : Turns key candidates chosen) (hinj : Set.InjOn key {a | a∈candidates}) :
    FairTurns candidates chosen := by
  intro a earlier hs ha b hb
  have hturns := h.of_suffix hs
  cases hturns with
  | fresh h' hfirst hfresh => exact absurd (List.mem_map_of_mem ha) hfresh
  | again h' hall hhead =>
    obtain ⟨c,hc,hkey⟩ := List.mem_map.mp (hall b hb)
    rw [←hinj (h'.mem hc) hb hkey]
    exact hc

lemma Turns.fair_of_short (h : Turns key candidates chosen)
    (hlength : chosen.length≤(candidates.map key).dedup.length) : FairTurns candidates chosen := by
  intro a earlier hs ha
  have hnodup := (h.of_suffix hs).nodup_keys (hs.length_le.trans hlength)
  exact absurd (List.mem_map_of_mem ha) (List.nodup_cons.mp hnodup).1

/-- The turn after the last key goes to someone who had one. -/
lemma Turns.injOn_of_fair (h : Turns key candidates chosen) (hfair : FairTurns candidates chosen)
    (hlength : (candidates.map key).dedup.length < chosen.length) : Set.InjOn key {a | a∈candidates} := by
  have hsuffix := List.drop_suffix (chosen.length-((candidates.map key).dedup.length+1)) chosen
  have hturns := h.of_suffix hsuffix
  have hcount := List.length_drop (i := chosen.length-((candidates.map key).dedup.length+1)) (l := chosen)
  generalize chosen.drop (chosen.length-((candidates.map key).dedup.length+1)) = late at hsuffix hturns hcount
  cases hturns with
  | nil =>
    rw [List.length_nil] at hcount
    omega
  | @fresh a earlier h' hfirst hfresh =>
    have hall := h'.all_keys (by rw [List.length_cons] at hcount; omega)
    exact absurd (hall a (List.mem_of_find?_eq_some hfirst)) hfresh
  | @again a earlier h' hall hhead =>
    obtain ⟨c,hc,hkey⟩ := List.mem_map.mp (hall a (List.mem_of_head? hhead))
    have hfirst := (Turns.again h' hall hhead).first List.mem_cons_self
    have hca : c = a := by
      rw [←hkey,h'.first hc] at hfirst
      exact Option.some.inj hfirst
    have hevery := hfair a earlier hsuffix (hca ▸ hc)
    intro b hb d hd hbd
    exact h'.eq_of_key (hevery b hb) (hevery d hd) hbd

/-- Turns are fair exactly if no two candidates share a key, or if there are no more turns than keys. -/
theorem Turns.fair_iff (h : Turns key candidates chosen) : FairTurns candidates chosen ↔
    Set.InjOn key {a | a∈candidates} ∨ chosen.length≤(candidates.map key).dedup.length := by
  constructor
  · intro hfair
    by_cases hlength : chosen.length≤(candidates.map key).dedup.length
    · exact .inr hlength
    · exact .inl (h.injOn_of_fair hfair (by omega))
  · rintro (hinj | hlength)
    · exact h.fair_of_injOn hinj
    · exact h.fair_of_short hlength

end

end Tierflow
