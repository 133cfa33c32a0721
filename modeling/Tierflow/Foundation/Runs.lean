import Mathlib.Data.List.Chain
import Mathlib.Tactic

/-! Runs of neighbours in a list. A run is kept as its last element and those before it. A walk that melts an element
into the last thing it has written writes one thing for each run. -/
namespace Tierflow
namespace Runs
variable {α β : Type*} (joins : α → α → Prop) [DecidableRel joins]

/-- The runs from the one that is being read on. -/
def runsFrom : List α → α → List α → List (List α × α)
  | earlier,a,[] => [(earlier,a)]
  | earlier,a,b::l => if joins a b then runsFrom (earlier++[a]) b l else (earlier,a)::runsFrom [] b l

def runs : List α → List (List α × α)
  | [] => []
  | a::l => runsFrom joins [] a l

section Members
variable {joins} {earlier l : List α} {a : α} {r : List α × α}

lemma flatMap_runsFrom : (runsFrom joins earlier a l).flatMap (fun r => r.1++[r.2]) = earlier++a::l := by
  induction l generalizing earlier a with
  | nil => simp [runsFrom]
  | cons b l ih =>
    rw [runsFrom]
    split_ifs
    · rw [ih,List.append_assoc,List.singleton_append]
    · rw [List.flatMap_cons,ih,List.nil_append,List.append_assoc,List.singleton_append]

/-- The runs are the list. -/
lemma flatMap_runs (l : List α) : (runs joins l).flatMap (fun r => r.1++[r.2]) = l := by
  cases l with
  | nil => rfl
  | cons a l => exact flatMap_runsFrom

lemma last_mem (hr : r∈runs joins l) : r.2∈l := by
  rw [←@flatMap_runs α joins _ l]
  exact List.mem_flatMap.mpr ⟨r,hr,List.mem_append_right _ (List.mem_singleton_self _)⟩

/-- What holds of an element that is followed by one of its run holds of all but the last. -/
lemma forall_runsFrom {p : α → Prop} (hearlier : ∀ x∈earlier, p x)
    (h : (a::l).IsChain (fun x y => joins x y → p x)) : ∀ r∈runsFrom joins earlier a l, ∀ x∈r.1, p x := by
  induction l generalizing earlier a with
  | nil =>
    intro r hr x hx
    rw [List.mem_singleton.mp hr] at hx
    exact hearlier x hx
  | cons b l ih =>
    obtain ⟨hab,hrest⟩ := List.isChain_cons_cons.mp h
    rw [runsFrom]
    split_ifs with hj
    · apply ih _ hrest
      intro x hx
      rcases List.mem_append.mp hx with hx | hx
      · exact hearlier x hx
      · rw [List.mem_singleton.mp hx]
        exact hab hj
    · intro r hr
      rcases List.mem_cons.mp hr with rfl | hr
      · exact hearlier
      · exact ih (fun x hx => absurd hx List.not_mem_nil) hrest r hr

lemma forall_runs {p : α → Prop} (h : l.IsChain (fun x y => joins x y → p x)) :
    ∀ r∈runs joins l, ∀ x∈r.1, p x := by
  cases l with
  | nil => exact fun r hr => absurd hr List.not_mem_nil
  | cons a l => exact forall_runsFrom (fun x hx => absurd hx List.not_mem_nil) h

/-- What joined elements have in common the whole run has. -/
lemma key_runsFrom {κ : Type*} {key : α → κ} (hkey : ∀ x y, joins x y → key x = key y)
    (hearlier : ∀ x∈earlier, key x = key a) : ∀ r∈runsFrom joins earlier a l, ∀ x∈r.1, key x = key r.2 := by
  induction l generalizing earlier a with
  | nil =>
    intro r hr
    rw [List.mem_singleton.mp hr]
    exact hearlier
  | cons b l ih =>
    rw [runsFrom]
    split_ifs with hj
    · apply ih
      intro x hx
      rcases List.mem_append.mp hx with hx | hx
      · exact (hearlier x hx).trans (hkey a b hj)
      · rw [List.mem_singleton.mp hx]
        exact hkey a b hj
    · intro r hr
      rcases List.mem_cons.mp hr with rfl | hr
      · exact hearlier
      · exact ih (fun x hx => absurd hx List.not_mem_nil) r hr

lemma key_runs {κ : Type*} {key : α → κ} (hkey : ∀ x y, joins x y → key x = key y) (hr : r∈runs joins l) :
    ∀ x∈r.1, key x = key r.2 := by
  cases l with
  | nil => exact absurd hr List.not_mem_nil
  | cons a l => exact key_runsFrom hkey (fun x hx => absurd hx List.not_mem_nil) r hr

end Members

/-! ## Melting -/

section Melting
variable (start : α → β) (melt : β → α → β) (touches : β → α → Prop) [DecidableRel touches]

/-- One step of the walk: what is written, and the last of it. -/
def melting (s : List β × β) (a : α) : List β × β :=
  if touches s.2 a then (s.1.dropLast++[melt s.2 a],melt s.2 a) else (s.1++[start a],start a)

/-- What is written for a run. -/
def melted (r : List α × α) : β :=
  match r.1 with
  | [] => start r.2
  | a::l => (l++[r.2]).foldl melt (start a)

variable {start melt touches}

lemma melted_concat (earlier : List α) (a b : α) :
    melted start melt (earlier++[a],b) = melt (melted start melt (earlier,a)) b := by
  cases earlier with
  | nil => rfl
  | cons c l =>
    change (l++[a]++[b]).foldl melt (start c) = melt ((l++[a]).foldl melt (start c)) b
    rw [List.foldl_concat]

/-- A run of several elements has a last that is joined to another. -/
def Joined (r : List α × α) : Prop := r.1≠[] → ∃ a, joins a r.2

lemma foldl_melting (h : ∀ r, Joined joins r → ∀ b, touches (melted start melt r) b ↔ joins r.2 b)
    (written : List β) (earlier : List α) (a : α) (hjoined : Joined joins (earlier,a)) (l : List α) :
    (l.foldl (melting start melt touches) (written++[melted start melt (earlier,a)],melted start melt (earlier,a))).1 =
      written++(runsFrom joins earlier a l).map (melted start melt) := by
  induction l generalizing written earlier a with
  | nil => rfl
  | cons b l ih =>
    rw [List.foldl_cons,runsFrom,melting]
    dsimp only
    by_cases hj : joins a b
    · rw [if_pos ((h _ hjoined b).mpr hj),if_pos hj,List.dropLast_concat]
      have hrest := ih written (earlier++[a]) b (fun _ => ⟨a,hj⟩)
      rwa [melted_concat] at hrest
    · rw [if_neg (fun ht => hj ((h _ hjoined b).mp ht)),if_neg hj,List.map_cons]
      have hrest := ih (written++[melted start melt (earlier,a)]) [] b (fun hne => absurd rfl hne)
      exact hrest.trans (by rw [List.append_assoc,List.singleton_append])

/-- A walk that begins with nothing to melt into writes one thing for each run. -/
theorem foldl_melting_runs (h : ∀ r, Joined joins r → ∀ b, touches (melted start melt r) b ↔ joins r.2 b) {b₀ : β}
    (h₀ : ∀ a, ¬touches b₀ a) (l : List α) :
    (l.foldl (melting start melt touches) ([],b₀)).1 = (runs joins l).map (melted start melt) := by
  cases l with
  | nil => rfl
  | cons a l =>
    rw [List.foldl_cons,melting,if_neg (h₀ a)]
    exact foldl_melting joins h [] [] a (fun hne => absurd rfl hne) l

end Melting

end Runs
end Tierflow
